import PhoneBridge.Library.Run
import PhoneBridge.MessageCenter.AppState
import PhoneBridge.MessageCenter.DeviceIsolation
import PhoneBridge.MessageCenter.PairedMarks
import PhoneBridge.MessageCenter.PairingSafety
import PhoneBridge.MessageCenter.Unpairing

/-!
# One truth about pairing

Four places say that a device is paired: the session map, the column `paired`, the table `pairings`
and the pinned fingerprints. The program writes only the first when a pairing completes, and takes
some of them away without the others. They agree exactly as long as no such step is taken.
-/

namespace PhoneBridge.MessageCenter

open Library Proto Net Storage Crypto

/-- The fingerprint of a paired session. -/
def pairedFingerprint : Option DeviceSession → Option String
  | some (.paired session) => some session.certFingerprint
  | _ => none

namespace AppState

/-- The fingerprint with which the session map says that a device is paired. -/
def fingerprintOf (s : AppState) (deviceId : Uuid) : Option String :=
  pairedFingerprint (s.hub.center.sessions.pairing.get deviceId)

/-- The four places agree on which devices are paired, and on their fingerprints. -/
structure OneTruth (s : AppState) : Prop where
  flagged : ∀ deviceId, s.hub.center.store.Flagged deviceId ↔ s.fingerprintOf deviceId ≠ none
  recorded : ∀ deviceId,
    s.hub.center.store.recorded deviceId = (s.fingerprintOf deviceId).toList
  pinned : ∀ deviceId, s.pinStore.get deviceId = s.fingerprintOf deviceId

/-- The envelope completes the pairing of the session's device. -/
def CompletesPairing (session : Option DeviceSession) (env : Envelope) : Prop :=
  isComplete env ∧
    match session with
    | some (.unpaired (.initiator _)) => True
    | some (.unpaired (.responder responder)) => responder.accepted = some true
    | _ => False

/-- The device has a channel with room, and the draws of a new Initiator succeed. -/
def CanStart (registry : DeviceRegistry) (draws : Draws) (deviceId : Uuid) : Prop :=
  draws.identity.isOk = true ∧ draws.ephemeral.isOk = true ∧
    ∃ tx, registry.inner.get deviceId = some tx ∧ (registry.outboxes tx).receiving = true ∧
      (registry.outboxes tx).queue.length < Outbox.capacity

/-- An envelope that completes a pairing, a hello that clears the flag of its own row, or the
unpairing of a paired device. -/
def Diverges (s : AppState) (stamp : Stamp) (env : Envelope) : Prop :=
  CompletesPairing (s.hub.center.sessions.pairing.get env.deviceId) env ∨
    (∃ id hello, sinkCall env = some (.onHello id env.deviceId hello) ∧
      ClearsPaired s.hub.center.store (CenterSink.helloRow stamp env.deviceId hello)) ∨
    (∃ id unpair, sinkCall env = some (.onUnpair id env.deviceId unpair) ∧
      s.fingerprintOf env.deviceId ≠ none)

/-- Such an envelope on a live connection, or a `pair_start` for a paired device. -/
def Splits (s : AppState) : ServerLabel → Prop
  | .connection (.frame conn frame arrival) => s.hub.inPhase conn .serving ≠ none ∧
      ∃ env ∈ frame.envelope, s.Diverges arrival.sink env
  | .pairStart draws deviceId =>
    s.fingerprintOf deviceId ≠ none ∧ CanStart s.hub.center.registry draws deviceId
  | _ => False

end AppState

/-! ## The session of one device -/

section Session

variable {session : Option DeviceSession} {draws : Draws} {env : Envelope}

theorem pairedFingerprint_ne_none :
    pairedFingerprint session ≠ none ↔ ∃ paired, session = some (.paired paired) := by
  unfold pairedFingerprint
  split
  · next paired => simp
  · next hother =>
    simp only [ne_eq, not_true_eq_false, false_iff, not_exists]
    exact fun paired hpaired ↦ hother paired hpaired

theorem after_paired (paired : PairedSession) :
    DeviceSession.after draws env (some (.paired paired)) = some (.paired paired) := by
  unfold DeviceSession.after
  split <;> simp_all

/-- A Responder becomes Paired by a readable `pair.complete` after the user's consent. -/
theorem responder_paired_iff {responder : Responder} :
    (∃ paired, DeviceSession.after draws env (some (.unpaired (.responder responder))) =
      some (.paired paired)) ↔ responder.accepted = some true ∧ isComplete env := by
  by_cases htype : env.messageType = .devicePairComplete
  · cases haccepted : responder.accepted with
    | none =>
      simp [DeviceSession.after, htype, Responder.onComplete, haccepted, ensure, bind, Except.bind,
        Except.toOption]
    | some accepted =>
      cases accepted <;> cases hread : readComplete env <;>
        simp [DeviceSession.after, htype, Responder.onComplete, checkComplete, hread, isComplete,
          haccepted, ensure, bind, Except.bind, pure, Except.pure, Except.toOption, Except.isOk,
          Except.toBool, Sessions.pairedWith]
  · simp only [isComplete, htype, false_and, and_false, iff_false, not_exists]
    intro paired hpaired
    unfold DeviceSession.after at hpaired
    split at hpaired
    all_goals simp_all

/-- When the session of a device is Paired after an envelope. -/
theorem after_isPaired_iff :
    (∃ paired, DeviceSession.after draws env session = some (.paired paired)) ↔
      AppState.CompletesPairing session env ∨ ∃ paired, session = some (.paired paired) := by
  rcases session with _ | ⟨init | responder⟩ | paired
  · simp only [AppState.CompletesPairing, and_false, reduceCtorEq, exists_false, or_self, iff_false,
      not_exists]
    intro paired hpaired
    unfold DeviceSession.after at hpaired
    split at hpaired
    all_goals simp_all
  · rw [paired_iff_isComplete]
    simp [AppState.CompletesPairing]
  · rw [responder_paired_iff]
    simp [AppState.CompletesPairing, and_comm]
  · simp [after_paired]

/-- Only the completion of a pairing changes with which fingerprint a session is paired. -/
theorem pairedFingerprint_after (h : ¬ AppState.CompletesPairing session env) :
    pairedFingerprint (DeviceSession.after draws env session) = pairedFingerprint session := by
  by_cases hpaired : ∃ paired, session = some (.paired paired)
  · obtain ⟨paired, rfl⟩ := hpaired
    rw [after_paired]
  · have hbefore : pairedFingerprint session = none :=
      not_not.mp fun hsome ↦ hpaired (pairedFingerprint_ne_none.mp hsome)
    have hafter : pairedFingerprint (DeviceSession.after draws env session) = none := by
      refine not_not.mp fun hsome ↦ ?_
      exact (after_isPaired_iff.mp (pairedFingerprint_ne_none.mp hsome)).elim h hpaired
    rw [hbefore, hafter]

/-- The completion of a pairing pairs an unpaired session. -/
theorem pairedFingerprint_completes (h : AppState.CompletesPairing session env) :
    pairedFingerprint session = none ∧
      pairedFingerprint (DeviceSession.after draws env session) ≠ none := by
  refine ⟨?_, pairedFingerprint_ne_none.mpr (after_isPaired_iff.mpr (.inl h))⟩
  rcases session with _ | ⟨init | responder⟩ | paired
  · rfl
  · rfl
  · rfl
  · exact h.2.elim

end Session

namespace AppState

/-! ## Steps that keep the agreement -/

section Keep

variable {s next : AppState} {ctx : WsContext}

theorem OneTruth.flaggedAreRecorded (h : s.OneTruth) :
    FlaggedAreRecorded s.hub.center.store.toTables := by
  intro deviceId hflagged
  obtain ⟨fingerprint, hfingerprint⟩ :=
    Option.ne_none_iff_exists'.mp ((h.flagged deviceId).mp hflagged)
  rw [h.recorded, hfingerprint]
  exact List.cons_ne_nil _ _

/-- The agreement depends on the paired sessions, the marks and the pins alone. -/
theorem OneTruth.of_same (h : s.OneTruth)
    (hsessions : ∀ deviceId, next.fingerprintOf deviceId = s.fingerprintOf deviceId)
    (hmarks : SameMarks next.hub.center.store.toTables s.hub.center.store.toTables)
    (hpins : next.pinStore = s.pinStore) : next.OneTruth where
  flagged deviceId := by rw [hmarks.flagged, hsessions]; exact h.flagged deviceId
  recorded deviceId := by rw [hmarks.recorded, hsessions]; exact h.recorded deviceId
  pinned deviceId := by rw [hpins, hsessions]; exact h.pinned deviceId

/-- The agreement after a change of the connections and the channels. -/
theorem OneTruth.of_eq (h : s.OneTruth)
    (hsessions : next.hub.center.sessions.pairing = s.hub.center.sessions.pairing)
    (hstore : next.hub.center.store = s.hub.center.store) (hpins : next.pinStore = s.pinStore) :
    next.OneTruth := by
  apply h.of_same _ _ hpins
  · intro deviceId
    rw [fingerprintOf, fingerprintOf, hsessions]
  · rw [hstore]
    exact .refl _

/-- What an envelope does to the paired sessions. -/
theorem fingerprintOf_envelope {conn : ConnId} {arrival : Arrival} {env : Envelope}
    (hcenter : next.hub.center = s.hub.center.handleEnvelope ctx centerSink conn arrival env)
    (deviceId : Uuid) :
    next.fingerprintOf deviceId =
      if deviceId = env.deviceId then pairedFingerprint
        (DeviceSession.after arrival.dispatch env (s.hub.center.sessions.pairing.get env.deviceId))
      else s.fingerprintOf deviceId := by
  rw [fingerprintOf, hcenter, Center.sessions_handleEnvelope, dispatch_eq]
  split
  · next hdevice => rw [hdevice, KeyMap.get_set_self]
  · next hdevice =>
    rw [KeyMap.get_set_of_ne _ _ hdevice]
    rfl

/-- Removing what the database has of a device that is not paired leaves the marks. -/
theorem OneTruth.sameMarks_delete (h : s.OneTruth) {deviceId : Uuid}
    (hunpaired : s.fingerprintOf deviceId = none) {db : Db}
    (hmarks : SameMarks db.toTables s.hub.center.store.toTables) :
    SameMarks (db.deleteDevice deviceId) s.hub.center.store.toTables := by
  constructor
  · intro other
    rw [flagged_deleteDevice, hmarks.flagged]
    refine and_iff_right_of_imp ?_
    rintro hflagged rfl
    exact (h.flagged other).mp hflagged hunpaired
  · intro other
    rw [recorded_deleteDevice, hmarks.recorded]
    split
    · next hdevice => rw [hdevice, h.recorded, hunpaired]; rfl
    · rfl

/-- What the database says about pairing after an envelope. -/
theorem OneTruth.sameMarks_envelope (h : s.OneTruth) {stamp : Stamp} {env : Envelope}
    {call : SinkCall} (hcall : sinkCall env = some call) (hkeeps : ¬ s.Diverges stamp env) :
    SameMarks (centerSink stamp call s.hub.center.store).toTables
      s.hub.center.store.toTables := by
  have hdevice := deviceId_of_sinkCall hcall
  by_cases hmarks : MarksCall s.hub.center.store stamp call
  · cases call with
    | onHello id deviceId hello =>
      obtain rfl : deviceId = env.deviceId := hdevice
      exact absurd (.inr (.inl ⟨id, hello, hcall, hmarks⟩)) hkeeps
    | onUnpair id deviceId unpair =>
      obtain rfl : deviceId = env.deviceId := hdevice
      have hunpaired : s.fingerprintOf env.deviceId = none :=
        not_not.mp fun hpaired ↦ hkeeps (.inr (.inr ⟨id, unpair, hcall, hpaired⟩))
      simp only [centerSink, CenterSink.onUnpair]
      rw [toTables_removeDevice]
      exact h.sameMarks_delete hunpaired (sameMarks_audit ..)
    | _ => exact hmarks.elim
  · exact sameMarks_centerSink stamp h.flaggedAreRecorded hmarks

theorem OneTruth.envelope (h : s.OneTruth) {conn : ConnId} {arrival : Arrival} {env : Envelope}
    (hcenter : next.hub.center = s.hub.center.handleEnvelope ctx centerSink conn arrival env)
    (hpins : next.pinStore = s.pinStore) (hkeeps : ¬ s.Diverges arrival.sink env) :
    next.OneTruth := by
  apply h.of_same _ _ hpins
  · intro deviceId
    rw [fingerprintOf_envelope hcenter]
    split
    · next hdevice =>
      rw [pairedFingerprint_after fun hcompletes ↦ hkeeps (.inl hcompletes), hdevice]
      rfl
    · rfl
  · rw [hcenter, Center.store_handleEnvelope]
    cases hcall : sinkCall env with
    | none => exact .refl _
    | some call => exact h.sameMarks_envelope hcall hkeeps

/-- The state after an envelope on a live connection. -/
theorem center_of_frame {conn : ConnId} {frame : Frame} {arrival : Arrival} {hub : Hub Db}
    (h : s.hub.frame ctx centerSink conn frame arrival = some hub) :
    hub.center = receive ctx s.hub.center { conn, frame, arrival } := by
  have hframe := center_frame ctx s.hub { conn, frame, arrival }
  rw [h, Option.map_some] at hframe
  obtain ⟨-, -, hcenter⟩ := Option.map_eq_some_iff.mp hframe.symm
  exact hcenter.symm

/-- A step of a connection keeps the agreement, unless its envelope splits it. -/
theorem OneTruth.connection (h : s.OneTruth) {label : HubLabel} {hub : Hub Db}
    (hkeeps : ¬ s.Splits (.connection label)) (hstep : s.hub.step ctx centerSink label = some hub) :
    OneTruth { s with hub } := by
  cases label with
  | accept conn stamp =>
    simp only [Hub.step, Hub.accept] at hstep
    split at hstep
    · cases hstep
    · cases hstep
      exact h.of_eq rfl rfl rfl
  | frame conn frame arrival =>
    have hserving : s.hub.inPhase conn .serving ≠ none := by
      intro hnone
      simp [Hub.step, Hub.frame, hnone] at hstep
    have hcenter := center_of_frame hstep
    cases henv : frame.envelope with
    | none =>
      simp only [receive, henv] at hcenter
      exact h.of_eq (by rw [hcenter]) (by rw [hcenter]) rfl
    | some env =>
      simp only [receive, henv] at hcenter
      exact h.envelope hcenter rfl fun hdiverges ↦ hkeeps ⟨hserving, env, henv, hdiverges⟩
  | close conn =>
    obtain ⟨connection, -, rfl⟩ := Option.map_eq_some_iff.mp hstep
    exact h.of_eq rfl rfl rfl
  | streamError conn =>
    obtain ⟨connection, -, rfl⟩ := Option.map_eq_some_iff.mp hstep
    exact h.of_eq rfl rfl rfl
  | cleanup conn stamp =>
    obtain ⟨connection, -, rfl⟩ := Option.map_eq_some_iff.mp hstep
    dsimp only [Hub.put]
    split
    · next id hid =>
      refine h.of_same (fun _ ↦ rfl) ?_ rfl
      exact sameMarks_centerSink stamp h.flaggedAreRecorded (by simp [MarksCall])
    · exact h.of_eq rfl rfl rfl

variable (ctx) in
/-- `pair_start` stores an Initiator when it can start. -/
theorem pairStart_of_canStart {draws : Draws} {deviceId : Uuid} {center : Center Db}
    (h : CanStart center.registry draws deviceId) :
    ∃ initiator, (pairStart ctx draws deviceId center).2.sessions =
      center.sessions.insert deviceId (.unpaired (.initiator initiator)) := by
  obtain ⟨hidentity, hephemeral, tx, hentry, hreceiving, hroom⟩ := h
  cases hdraw : draws.identity with
  | error e => simp [hdraw, Except.isOk, Except.toBool] at hidentity
  | ok identity =>
    cases hkeys : draws.ephemeral with
    | error e => simp [hkeys, Except.isOk, Except.toBool] at hephemeral
    | ok ephemeral =>
      refine ⟨{
        identity
        peerDeviceId := deviceId
        peerName := ctx.ourName
        ephemeral := some ephemeral
        peerEphemeralPub := none
        challengeCode := none }, ?_⟩
      simp [pairStart, DeviceRegistry.isConnected, hentry, Initiator.start, hdraw, hkeys,
        Except.mapError, bind, Except.bind, pure, Except.pure, Initiator.buildRequestEnvelope,
        DeviceRegistry.trySend, Outbox.trySend, hreceiving, hroom]

/-- Otherwise it changes no session. -/
theorem pairStart_of_not_canStart {draws : Draws} {deviceId : Uuid} {center : Center Db}
    (h : ¬ CanStart center.registry draws deviceId) :
    (pairStart ctx draws deviceId center).2.sessions = center.sessions := by
  unfold pairStart
  split
  · rfl
  split
  · rfl
  next initiator hstart =>
    split
    · rfl
    split
    · rfl
    next registry hsend =>
      refine absurd ?_ h
      simp only [Initiator.start, bind_eq_ok, mapError_eq_ok] at hstart
      obtain ⟨identity, hidentity, ephemeral, hephemeral, -⟩ := hstart
      obtain ⟨tx, hentry, hreceiving, hroom, -⟩ := DeviceRegistry.trySend_eq_ok.mp hsend
      refine ⟨?_, ?_, tx, hentry, hreceiving, hroom⟩
      · rw [hidentity]
        rfl
      · rw [hephemeral]
        rfl

/-- What the removal of a device leaves. -/
theorem removeDevice_eq (s : AppState) (dbMessage : DbError → String) (now : Int64)
    (deviceId : Uuid) :
    ∃ audited store : Db, SameMarks audited.toTables s.hub.center.store.toTables ∧
      store.toTables = audited.deleteDevice deviceId ∧
      (s.removeDevice dbMessage now deviceId).2 = { s.withCenter {
          sessions := { s.hub.center.sessions with
            pairing := s.hub.center.sessions.pairing.remove deviceId }
          registry := s.hub.center.registry.unregister deviceId
          store } with pinStore := s.pinStore.remove deviceId } := by
  have hmarks : SameMarks (warned s.hub.center.store (s.hub.center.store.insertAuditLog now
      (some deviceId) "device.unpair" none)).toTables s.hub.center.store.toTables :=
    sameMarks_warned (sameMarks_of_eq rfl rfl)
  refine ⟨_, _, hmarks, toTables_removeDevice _ deviceId, ?_⟩
  rw [removeDevice_succeeds]

theorem OneTruth.pairStart (h : s.OneTruth) {draws : Draws} {deviceId : Uuid}
    (hkeeps : ¬ s.Splits (.pairStart draws deviceId)) :
    (s.withCenter (MessageCenter.pairStart ctx draws deviceId s.hub.center).2).OneTruth := by
  refine h.of_same (fun other ↦ ?_) ?_ rfl
  · by_cases hstart : CanStart s.hub.center.registry draws deviceId
    · obtain ⟨initiator, hsessions⟩ := pairStart_of_canStart ctx hstart
      have hunpaired : s.fingerprintOf deviceId = none :=
        not_not.mp fun hpaired ↦ hkeeps ⟨hpaired, hstart⟩
      simp only [fingerprintOf, withCenter, hsessions, Sessions.insert, KeyMap.get_insert]
      split
      · next hdevice =>
        rw [hdevice]
        exact hunpaired.symm
      · rfl
    · simp only [fingerprintOf, withCenter, pairStart_of_not_canStart hstart]
  · simp only [withCenter, store_pairStart]
    exact .refl _

/-- The removal of a device takes it out of all four places. -/
theorem OneTruth.removeDevice (h : s.OneTruth) (dbMessage : DbError → String) (now : Int64)
    (deviceId : Uuid) : (s.removeDevice dbMessage now deviceId).2.OneTruth := by
  obtain ⟨audited, store, hmarks, hstore, hnext⟩ :=
    removeDevice_eq s dbMessage now deviceId
  have hfingerprint : ∀ other, (s.removeDevice dbMessage now deviceId).2.fingerprintOf other =
      if other = deviceId then none else s.fingerprintOf other := by
    intro other
    simp only [hnext, fingerprintOf, withCenter, KeyMap.get_remove]
    split <;> rfl
  constructor
  · intro other
    rw [hfingerprint, hnext]
    simp only [withCenter, hstore, flagged_deleteDevice, hmarks.flagged, h.flagged]
    split <;> simp_all
  · intro other
    rw [hfingerprint, hnext]
    simp only [withCenter, hstore, recorded_deleteDevice, hmarks.recorded, h.recorded]
    split <;> rfl
  · intro other
    rw [hfingerprint, hnext]
    simp only [KeyMap.get_remove, h.pinned]

/-- A step that does not split the four places keeps their agreement. -/
theorem OneTruth.step (h : s.OneTruth) {dbMessage : DbError → String} {label : ServerLabel}
    (hkeeps : ¬ s.Splits label) (hstep : s.step ctx dbMessage label = some next) :
    next.OneTruth := by
  cases label with
  | connection label =>
    obtain ⟨hub, hhub, rfl⟩ := Option.map_eq_some_iff.mp hstep
    exact h.connection hkeeps hhub
  | pairStart draws deviceId =>
    cases hstep
    exact h.pairStart hkeeps
  | pairAccept draws dummy deviceId code =>
    cases hstep
    rw [pairAccept_eq]
    exact h
  | pairReject draws dummy deviceId reason =>
    cases hstep
    rw [pairReject_eq]
    exact h
  | incomingAccept draws deviceId =>
    cases hstep
    exact h.of_eq (incomingAccept_pairing ..) (store_incomingAccept ..) rfl
  | incomingReject draws deviceId =>
    cases hstep
    exact h.of_eq (incomingReject_pairing ..) (store_incomingReject ..) rfl
  | removeDevice now deviceId =>
    cases hstep
    exact h.removeDevice dbMessage now deviceId

end Keep

/-! ## Steps that split it -/

section Split

variable {s next : AppState} {ctx : WsContext}

/-- A change of the paired sessions that the pins do not follow. -/
theorem OneTruth.not_of_unpinned (h : s.OneTruth) (deviceId : Uuid)
    (hsession : next.fingerprintOf deviceId ≠ s.fingerprintOf deviceId)
    (hpins : next.pinStore = s.pinStore) : ¬ next.OneTruth := by
  intro hnext
  have hpinned := hnext.pinned deviceId
  rw [hpins, h.pinned] at hpinned
  exact hsession hpinned.symm

/-- A paired session whose device has lost its flag. -/
theorem OneTruth.not_of_unflagged {deviceId : Uuid} (hsession : next.fingerprintOf deviceId ≠ none)
    (hflag : ¬ next.hub.center.store.Flagged deviceId) : ¬ next.OneTruth :=
  fun hnext ↦ hflag ((hnext.flagged deviceId).mpr hsession)

/-- Only a `pair.complete` completes a pairing. -/
theorem not_completes_of_sinkCall {env : Envelope} {call : SinkCall}
    {session : Option DeviceSession} (hcall : sinkCall env = some call) :
    ¬ CompletesPairing session env := by
  rintro ⟨⟨htype, -⟩, -⟩
  simp [sinkCall, htype] at hcall

/-- An envelope that diverges leaves the four places apart. -/
theorem OneTruth.split_envelope (h : s.OneTruth) {conn : ConnId} {arrival : Arrival}
    {env : Envelope}
    (hcenter : next.hub.center = s.hub.center.handleEnvelope ctx centerSink conn arrival env)
    (hpins : next.pinStore = s.pinStore) (hdiverges : s.Diverges arrival.sink env) :
    ¬ next.OneTruth := by
  have hsession := fingerprintOf_envelope hcenter env.deviceId
  rw [if_pos rfl] at hsession
  rcases hdiverges with hcompletes | ⟨id, hello, hcall, hclears⟩ | ⟨id, unpair, hcall, hpaired⟩
  · obtain ⟨hbefore, hafter⟩ := pairedFingerprint_completes hcompletes
    apply h.not_of_unpinned env.deviceId _ hpins
    rw [hsession, fingerprintOf, hbefore]
    exact hafter
  · rw [pairedFingerprint_after (not_completes_of_sinkCall hcall)] at hsession
    obtain ⟨hflagged, hunflagged⟩ := not_flagged_upsertDevice rfl hclears
    apply OneTruth.not_of_unflagged
    · rw [hsession]
      exact (h.flagged env.deviceId).mp hflagged
    · rw [hcenter, Center.store_handleEnvelope, hcall]
      simp only [centerSink, CenterSink.onHello]
      rw [((sameMarks_audit ..).trans (sameMarks_touchDevice ..)).flagged]
      exact hunflagged
  · rw [pairedFingerprint_after (not_completes_of_sinkCall hcall)] at hsession
    apply OneTruth.not_of_unflagged
    · rw [hsession]
      exact hpaired
    · rw [hcenter, Center.store_handleEnvelope, hcall]
      simp only [centerSink, CenterSink.onUnpair]
      rw [toTables_removeDevice, flagged_deleteDevice]
      exact fun hflagged ↦ hflagged.1 rfl

/-- A step that splits the four places is possible, and leaves them apart. -/
theorem OneTruth.split (h : s.OneTruth) (ctx : WsContext) (dbMessage : DbError → String)
    {label : ServerLabel} (hsplits : s.Splits label) :
    ∃ next, s.step ctx dbMessage label = some next ∧ ¬ next.OneTruth := by
  cases label with
  | connection label =>
    cases label with
    | frame conn frame arrival =>
      obtain ⟨hserving, env, henv, hdiverges⟩ := hsplits
      obtain ⟨connection, hconnection⟩ := Option.ne_none_iff_exists'.mp hserving
      obtain ⟨hub, hhub⟩ : ∃ hub, s.hub.frame ctx centerSink conn frame arrival = some hub := by
        simp [Hub.frame, hconnection]
      refine ⟨{ s with hub }, by simp [AppState.step, Hub.step, hhub], ?_⟩
      have hcenter := center_of_frame hhub
      simp only [receive, show frame.envelope = some env from henv] at hcenter
      exact h.split_envelope hcenter rfl hdiverges
    | _ => exact hsplits.elim
  | pairStart draws deviceId =>
    obtain ⟨hpaired, hstart⟩ := hsplits
    refine ⟨_, rfl, ?_⟩
    obtain ⟨initiator, hsessions⟩ := pairStart_of_canStart ctx hstart
    refine h.not_of_unpinned deviceId ?_ rfl
    simp only [fingerprintOf, withCenter, hsessions, Sessions.insert, KeyMap.get_insert_self,
      pairedFingerprint]
    exact hpaired.symm
  | _ => exact hsplits.elim

end Split

/-- From a state in which the four places agree, they agree in every state of a run exactly when no
step of it splits them. -/
theorem one_pairing_truth_iff (ctx : WsContext) (dbMessage : DbError → String) (s : AppState)
    (labels : List ServerLabel) (h : s.OneTruth) :
    Run.Always (step ctx dbMessage) OneTruth s labels ↔
      Run.Throughout (step ctx dbMessage) (fun s label ↦ ¬ s.Splits label) s labels := by
  refine Run.always_iff_throughout OneTruth (fun _ hs ↦ hs) ?_ ?_ h
  · exact fun s label next hs hkeeps hstep ↦ hs.step hkeeps hstep
  · exact fun s label hs hsplits ↦ hs.split ctx dbMessage (not_not.mp hsplits)

/-! ## From a fresh start -/

theorem oneTruth_start : (start .empty).OneTruth where
  flagged deviceId := by simp [start, Db.empty, Tables.Flagged, fingerprintOf, pairedFingerprint,
    Sessions.empty]
  recorded deviceId := by simp [start, Db.empty, Tables.recorded, fingerprintOf, pairedFingerprint,
    Sessions.empty]
  pinned deviceId := by simp [start, fingerprintOf, pairedFingerprint, Sessions.empty]

/-- A phone connects and says hello, and the user starts a pairing with it. -/
def samplePairing : List ServerLabel :=
  [.connection (.accept 0 { now := 1000, freshId := .nil }),
    .connection (.frame 0 (sampleHello ⟨1⟩ "one").frame (sampleHello ⟨1⟩ "one").arrival),
    .pairStart sampleDraws ⟨1⟩]

/-- A first hello splits nothing. -/
theorem not_diverges_sampleHello {s : AppState} {stamp : Stamp}
    (hempty : s.hub.center.store.devices.rows = []) :
    ¬ s.Diverges stamp (helloEnvelope ⟨1⟩ "one") := by
  have hcall : ∃ hello, sinkCall (helloEnvelope ⟨1⟩ "one") = some (.onHello .nil ⟨1⟩ hello) :=
    ⟨_, rfl⟩
  obtain ⟨hello, hcall⟩ := hcall
  rintro (hcompletes | ⟨id, hello, -, row, hrow, -⟩ | ⟨id, unpair, hunpair, -⟩)
  · exact not_completes_of_sinkCall hcall hcompletes
  · simp [Db.findHardware, hempty] at hrow
  · rw [hcall] at hunpair
    cases hunpair

/-- The phone is removed while its pairing is under way. -/
theorem sample_one_truth :
    (Run.exec (step sampleContext fun _ ↦ "") (start .empty)
      (samplePairing ++ [.removeDevice 1000 ⟨1⟩])).isSome = true ∧
    Run.Always (step sampleContext fun _ ↦ "") OneTruth (start .empty)
      (samplePairing ++ [.removeDevice 1000 ⟨1⟩]) := by
  refine ⟨rfl, (one_pairing_truth_iff _ _ _ _ oneTruth_start).mpr ?_⟩
  refine ⟨fun h ↦ h.elim, ?_⟩
  rintro connected ⟨⟩
  refine ⟨?_, ?_⟩
  · rintro ⟨-, env, henv, hdiverges⟩
    rw [envelope_sampleHello] at henv
    cases henv
    exact not_diverges_sampleHello rfl hdiverges
  rintro greeted ⟨⟩
  refine ⟨fun h ↦ h.1 rfl, ?_⟩
  rintro started ⟨⟩
  exact ⟨fun h ↦ h.elim, fun _ _ ↦ trivial⟩

/-- Then the phone's certificate arrives. -/
theorem samplePairing_splits : ∃ t,
    Run.exec (step sampleContext fun _ ↦ "") (start .empty) samplePairing = some t ∧
      t.Splits (.connection (.frame 0 (.text sampleComplete.toJson) (sampleHello ⟨1⟩ "one").arrival))
      := by
  refine ⟨_, rfl, Option.some_ne_none _, sampleComplete, ?_, .inl ⟨?_, trivial⟩⟩
  · simp [Frame.envelope, Envelope.fromJson_toJson, Except.toOption]
  · exact ⟨rfl, by rfl⟩

/-- A pairing from its start to its end is known to the session map alone. -/
theorem completed_pairing_is_not_stored : ¬ ∀ (ctx : WsContext) (dbMessage : DbError → String)
    (labels : List ServerLabel), Run.Always (step ctx dbMessage) OneTruth (start .empty) labels := by
  intro h
  obtain ⟨t, hrun, hsplits⟩ := samplePairing_splits
  have hkeeps := (one_pairing_truth_iff _ _ _ _ oneTruth_start).mp
    (h sampleContext (fun _ ↦ "") (samplePairing ++ [.connection (.frame 0
      (.text sampleComplete.toJson) (sampleHello ⟨1⟩ "one").arrival)]))
  exact hkeeps.at_step hrun hsplits

end AppState

end PhoneBridge.MessageCenter
