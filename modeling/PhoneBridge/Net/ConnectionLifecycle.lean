import PhoneBridge.Net.Connection
import PhoneBridge.Library.Run

/-!
# Connection lifecycle of the registry

Which sender the registry holds for a device while connections of any number open, say hello, close
and break. Registration is keyed by the device id of a hello, cleanup by the last id that the
closing connection saw, and a stream error skips cleanup. The registry follows the most recent live
speaker of each device in every run in which no cleanup removes another connection's entry and no
ended connection leaves an entry behind.
-/

namespace PhoneBridge.Net

open Library Proto

variable {σ : Type}

/-- The device for which a frame says hello. -/
def Frame.hello (frame : Frame) : Option Uuid :=
  frame.envelope.bind fun env ↦ if env.messageType = .deviceHello then some env.deviceId else none

/-- The hello said in a step: the device and the connection. -/
def HubLabel.hello : HubLabel → Option (Uuid × ConnId)
  | .frame conn incoming _ => incoming.hello.map fun deviceId ↦ (deviceId, conn)
  | _ => none

/-- The steps of a hub so far, newest first, each with the state it was taken from. -/
abbrev HubPast (σ : Type) := List (Hub σ × HubLabel)

/-- All hellos so far, newest first. -/
def hellos (past : HubPast σ) : List (Uuid × ConnId) := past.filterMap fun visit ↦ visit.2.hello

namespace Hub

/-- Is the connection in its frame loop? -/
def isServing (hub : Hub σ) (conn : ConnId) : Bool := (hub.inPhase conn .serving).isSome

/-- Is the connection out of its loop with the cleanup still to run? -/
def isClosing (hub : Hub σ) (conn : ConnId) : Bool := (hub.inPhase conn .closing).isSome

/-- Every ended connection has either returned or executed its cleanup statements. -/
def Settled (hub : Hub σ) : Prop := ∀ conn, hub.isClosing conn = false

/-- The sender that the registry holds for a device. -/
def registered (hub : Hub σ) (deviceId : Uuid) : Option ConnId :=
  hub.center.registry.inner.get deviceId

/-- The live connection that most recently said hello for a device. -/
def latestSpeaker (hub : Hub σ) (past : HubPast σ) (deviceId : Uuid) : Option ConnId :=
  ((hellos past).find? fun hello ↦ hello.1 = deviceId ∧ hub.isServing hello.2 = true).map Prod.snd

/-- A hub without connections and with an empty registry. -/
def start (sessions : Sessions) (store : σ) : Hub σ where
  center := { sessions, registry := { inner := .empty, outboxes := fun _ ↦ .new }, store }
  connections := .empty

/-- A cleanup removes only the entry of its own connection, and an ended connection leaves no
entry behind. -/
def EndsCleanly (hub : Hub σ) (past : HubPast σ) : HubLabel → Prop
  | .cleanup conn _ => ∀ connection, hub.connections.get conn = some connection →
      (∀ deviceId, hub.registered deviceId = some conn →
        connection.deviceIdHolder = some deviceId) ∧
      (∀ deviceId other, connection.deviceIdHolder = some deviceId → other ≠ conn →
        hub.isServing other = true → (deviceId, other) ∉ hellos past)
  | .streamError conn => ∀ deviceId, hub.registered deviceId ≠ some conn
  | _ => True

/-! ## What one step does -/

/-- The effect of a step on the registry and on the connections. -/
inductive Moves (hub next : Hub σ) : HubLabel → Prop
  | accept (conn : ConnId) (stamp : Stamp) (hnew : hub.connections.get conn = none)
      (hregistry : next.center.registry.inner = hub.center.registry.inner)
      (hconnections : next.connections =
        hub.connections.insert conn { deviceIdHolder := none, phase := .serving }) :
      Moves hub next (.accept conn stamp)
  | hello (conn : ConnId) (frame : Frame) (arrival : Arrival) (connection : Connection)
      (deviceId : Uuid) (hconn : hub.connections.get conn = some connection)
      (hphase : connection.phase = .serving) (hhello : frame.hello = some deviceId)
      (hregistry : next.center.registry.inner = hub.center.registry.inner.insert deviceId conn)
      (hconnections : next.connections =
        hub.connections.insert conn { connection with deviceIdHolder := some deviceId }) :
      Moves hub next (.frame conn frame arrival)
  | other (conn : ConnId) (frame : Frame) (arrival : Arrival) (hhello : frame.hello = none)
      (hregistry : next.center.registry.inner = hub.center.registry.inner)
      (hconnections : next.connections = hub.connections) :
      Moves hub next (.frame conn frame arrival)
  | close (conn : ConnId) (connection : Connection)
      (hconn : hub.connections.get conn = some connection)
      (hregistry : next.center.registry.inner = hub.center.registry.inner)
      (hconnections : next.connections =
        hub.connections.insert conn { connection with phase := .closing }) :
      Moves hub next (.close conn)
  | streamError (conn : ConnId) (connection : Connection)
      (hconn : hub.connections.get conn = some connection)
      (hregistry : next.center.registry.inner = hub.center.registry.inner)
      (hconnections : next.connections =
        hub.connections.insert conn { connection with phase := .returned }) :
      Moves hub next (.streamError conn)
  | cleanup (conn : ConnId) (stamp : Stamp) (connection : Connection)
      (hconn : hub.connections.get conn = some connection)
      (hphase : connection.phase = .closing)
      (hregistry : next.center.registry.inner =
        match connection.deviceIdHolder with
        | some deviceId => hub.center.registry.inner.remove deviceId
        | none => hub.center.registry.inner)
      (hconnections : next.connections =
        hub.connections.insert conn { connection with phase := .cleaned }) :
      Moves hub next (.cleanup conn stamp)

theorem inPhase_eq_some {hub : Hub σ} {conn : ConnId} {phase : Phase} {connection : Connection} :
    hub.inPhase conn phase = some connection ↔
      hub.connections.get conn = some connection ∧ connection.phase = phase := by
  simp [inPhase, Option.filter_eq_some_iff]

theorem moves_of_step {ctx : WsContext} {sink : WsSink σ} {hub next : Hub σ} {label : HubLabel}
    (h : hub.step ctx sink label = some next) : Moves hub next label := by
  cases label with
  | accept conn stamp =>
    simp only [step, accept, KeyMap.contains_eq, Option.isSome_iff_ne_none, ne_eq] at h
    split at h
    · cases h
    · next hnew =>
      cases h
      exact .accept conn stamp (by simpa using hnew) rfl rfl
  | frame conn frame arrival =>
    obtain ⟨connection, hphase, rfl⟩ := Option.map_eq_some_iff.mp h
    rw [inPhase_eq_some] at hphase
    cases henv : frame.envelope with
    | none => exact .other conn frame arrival (by simp [Frame.hello, henv]) rfl rfl
    | some env =>
      by_cases htype : env.messageType = .deviceHello
      · refine .hello conn frame arrival connection env.deviceId hphase.1 hphase.2
          (by simp [Frame.hello, henv, htype]) ?_ ?_
        · simp [htype, put, Center.inner_handleEnvelope]
        · simp [htype, put]
      · refine .other conn frame arrival (by simp [Frame.hello, henv, htype]) ?_ ?_
        · simp [htype, Center.inner_handleEnvelope]
        · simp [htype]
  | close conn =>
    obtain ⟨connection, hphase, rfl⟩ := Option.map_eq_some_iff.mp h
    exact .close conn connection (inPhase_eq_some.mp hphase).1 rfl rfl
  | streamError conn =>
    obtain ⟨connection, hphase, rfl⟩ := Option.map_eq_some_iff.mp h
    exact .streamError conn connection (inPhase_eq_some.mp hphase).1 rfl rfl
  | cleanup conn stamp =>
    obtain ⟨connection, hphase, rfl⟩ := Option.map_eq_some_iff.mp h
    rw [inPhase_eq_some] at hphase
    refine .cleanup conn stamp connection hphase.1 hphase.2 ?_ rfl
    cases connection.deviceIdHolder <;> rfl

/-! ## What every step preserves -/

theorem isServing_eq (hub : Hub σ) (conn : ConnId) :
    hub.isServing conn =
      (hub.connections.get conn).any fun connection ↦ connection.phase = .serving := by
  cases h : hub.connections.get conn <;> simp [isServing, inPhase, h, Option.isSome_filter]

theorem isClosing_eq (hub : Hub σ) (conn : ConnId) :
    hub.isClosing conn =
      (hub.connections.get conn).any fun connection ↦ connection.phase = .closing := by
  cases h : hub.connections.get conn <;> simp [isClosing, inPhase, h, Option.isSome_filter]

/-- The registry holds, for each device, a connection that is still to be cleaned up and was the
last live one to say hello, and it holds nothing only when no live connection said hello. -/
structure Tracks (hub : Hub σ) (past : HubPast σ) : Prop where
  known : ∀ deviceId conn, (deviceId, conn) ∈ hellos past → hub.connections.get conn ≠ none
  entry : ∀ deviceId conn, hub.registered deviceId = some conn →
    (hub.isServing conn = true ∨ hub.isClosing conn = true) ∧
    ∃ newer older, hellos past = newer ++ (deviceId, conn) :: older ∧
      ∀ hello ∈ newer, hello.1 = deviceId → hub.isServing hello.2 = false
  absent : ∀ deviceId conn, hub.registered deviceId = none → (deviceId, conn) ∈ hellos past →
    hub.isServing conn = false

theorem tracks_start (sessions : Sessions) (store : σ) : Tracks (start sessions store) [] where
  known := by simp [hellos]
  entry := by simp [registered, start]
  absent := by simp [hellos]

/-- A step that says no hello, makes no known connection live, and drops an entry only when no
live connection needs it, keeps the invariant. -/
theorem Tracks.mono {hub next : Hub σ} {past past' : HubPast σ} (h : Tracks hub past)
    (hpast : hellos past' = hellos past)
    (hknown : ∀ conn, hub.connections.get conn ≠ none → next.connections.get conn ≠ none)
    (hserving : ∀ deviceId conn, (deviceId, conn) ∈ hellos past → next.isServing conn = true →
      hub.isServing conn = true)
    (hentry : ∀ deviceId conn, next.registered deviceId = some conn →
      hub.registered deviceId = some conn ∧
        (next.isServing conn = true ∨ next.isClosing conn = true))
    (habsent : ∀ deviceId conn, next.registered deviceId = none → (deviceId, conn) ∈ hellos past →
      hub.registered deviceId = none ∨ next.isServing conn = false) :
    Tracks next past' where
  known deviceId conn hmem := hknown conn (h.known deviceId conn (hpast ▸ hmem))
  entry deviceId conn hregistered := by
    obtain ⟨hbefore, hactive⟩ := hentry deviceId conn hregistered
    obtain ⟨-, newer, older, hsplit, hnewer⟩ := h.entry deviceId conn hbefore
    refine ⟨hactive, newer, older, hpast.trans hsplit, fun hello hmem hid ↦ ?_⟩
    have hpresent : (deviceId, hello.2) ∈ hellos past := by
      rw [hsplit, ← hid]
      exact List.mem_append_left _ hmem
    by_contra hlive
    have hbeforeLive := hserving _ _ hpresent (by simpa using hlive)
    rw [hnewer hello hmem hid] at hbeforeLive
    cases hbeforeLive
  absent deviceId conn hregistered hmem := by
    rw [hpast] at hmem
    rcases habsent deviceId conn hregistered hmem with hbefore | hdead
    · by_contra hlive
      have hbeforeLive := hserving _ _ hmem (by simpa using hlive)
      rw [h.absent deviceId conn hbefore hmem] at hbeforeLive
      cases hbeforeLive
    · exact hdead

theorem hellos_cons (hub : Hub σ) (label : HubLabel) (past : HubPast σ) :
    hellos ((hub, label) :: past) = label.hello.toList ++ hellos past := by
  cases h : label.hello <;> simp [hellos, h]

theorem registered_congr {hub next : Hub σ}
    (hregistry : next.center.registry.inner = hub.center.registry.inner) (deviceId : Uuid) :
    next.registered deviceId = hub.registered deviceId := by
  rw [registered, hregistry, registered]

section Insert

variable {hub next : Hub σ} {conn : ConnId} {connection : Connection}
  (hconnections : next.connections = hub.connections.insert conn connection)

include hconnections

theorem isServing_insert (other : ConnId) :
    next.isServing other =
      if other = conn then decide (connection.phase = .serving) else hub.isServing other := by
  by_cases h : other = conn <;> simp [isServing_eq, hconnections, h]

theorem isClosing_insert (other : ConnId) :
    next.isClosing other =
      if other = conn then decide (connection.phase = .closing) else hub.isClosing other := by
  by_cases h : other = conn <;> simp [isClosing_eq, hconnections, h]

theorem known_insert {other : ConnId} (hknown : hub.connections.get other ≠ none) :
    next.connections.get other ≠ none := by
  by_cases h : other = conn
  · simp [hconnections, h]
  · simpa [hconnections, h] using hknown

/-- A handler that leaves its loop keeps the invariant, when no other entry than its own is
dropped and no entry is left to a handler that is done. -/
theorem tracks_of_end {past past' : HubPast σ} (h : Tracks hub past)
    (hpast : hellos past' = hellos past) (hphase : connection.phase ≠ .serving)
    (hentry : ∀ deviceId other, next.registered deviceId = some other →
      hub.registered deviceId = some other ∧ (other = conn → connection.phase = .closing))
    (habsent : ∀ deviceId other, next.registered deviceId = none → other ≠ conn →
      hub.isServing other = true → (deviceId, other) ∈ hellos past →
      hub.registered deviceId = none) : Tracks next past' := by
  have hserving : ∀ other, next.isServing other = true →
      other ≠ conn ∧ hub.isServing other = true := by
    intro other hlive
    rw [isServing_insert hconnections] at hlive
    by_cases heq : other = conn
    · simp [heq, hphase] at hlive
    · exact ⟨heq, by simpa [heq] using hlive⟩
  refine h.mono hpast (fun other ↦ known_insert hconnections)
    (fun _ other _ hlive ↦ (hserving other hlive).2) (fun deviceId other hregistered ↦ ?_)
    fun deviceId other hregistered hmem ↦ ?_
  · obtain ⟨hbefore, hown⟩ := hentry deviceId other hregistered
    refine ⟨hbefore, ?_⟩
    by_cases heq : other = conn
    · exact .inr (by simp [isClosing_insert hconnections, heq, hown heq])
    · simpa [isServing_insert hconnections, isClosing_insert hconnections, heq] using
        (h.entry deviceId other hbefore).1
  · by_cases hlive : next.isServing other = true
    · obtain ⟨hne, hbefore⟩ := hserving other hlive
      exact .inl (habsent deviceId other hregistered hne hbefore hmem)
    · exact .inr (by simpa using hlive)

/-- A new connection has said no hello yet. -/
theorem tracks_of_accept {past past' : HubPast σ} (h : Tracks hub past)
    (hpast : hellos past' = hellos past) (hnew : hub.connections.get conn = none)
    (hsame : ∀ deviceId, next.registered deviceId = hub.registered deviceId) :
    Tracks next past' := by
  have hold : ∀ deviceId other, (deviceId, other) ∈ hellos past → other ≠ conn :=
    fun deviceId other hmem heq ↦ h.known deviceId other hmem (heq ▸ hnew)
  apply h.mono hpast (fun other ↦ known_insert hconnections)
  · intro deviceId other hmem hlive
    simpa [isServing_insert hconnections, hold deviceId other hmem] using hlive
  · intro deviceId other hregistered
    rw [hsame] at hregistered
    obtain ⟨hactive, newer, older, hsplit, -⟩ := h.entry deviceId other hregistered
    have hne := hold deviceId other (by simp [hsplit])
    exact ⟨hregistered, by
      simpa [isServing_insert hconnections, isClosing_insert hconnections, hne] using hactive⟩
  · intro deviceId other hregistered _
    exact .inl (hsame deviceId ▸ hregistered)

/-- The speaker of a hello is the last live one of its device, and keeps the phases. -/
theorem tracks_of_hello {past past' : HubPast σ} {deviceId : Uuid} {before : Connection}
    (h : Tracks hub past) (hpast : hellos past' = (deviceId, conn) :: hellos past)
    (hconn : hub.connections.get conn = some before) (hbefore : before.phase = .serving)
    (hphase : connection.phase = .serving)
    (hregistered : ∀ id, next.registered id =
      if id = deviceId then some conn else hub.registered id) : Tracks next past' := by
  have hserving : ∀ other, next.isServing other = hub.isServing other := by
    intro other
    by_cases heq : other = conn
    · simp [isServing_insert hconnections, heq, hphase, isServing_eq, hconn, hbefore]
    · simp [isServing_insert hconnections, heq]
  have hclosing : ∀ other, next.isClosing other = hub.isClosing other := by
    intro other
    by_cases heq : other = conn
    · simp [isClosing_insert hconnections, heq, hphase, isClosing_eq, hconn, hbefore]
    · simp [isClosing_insert hconnections, heq]
  constructor
  · intro id other hmem
    rw [hpast, List.mem_cons] at hmem
    rcases hmem with heq | hmem
    · cases heq
      simp [hconnections]
    · exact known_insert hconnections (h.known id other hmem)
  · intro id other hentry
    rw [hserving, hclosing, hpast]
    by_cases hid : id = deviceId
    · -- the new speaker heads the list of hellos
      rw [hregistered, if_pos hid, Option.some.injEq] at hentry
      subst hentry hid
      exact ⟨.inl (by simp [isServing_eq, hconn, hbefore]), [], hellos past, rfl, by simp⟩
    · rw [hregistered, if_neg hid] at hentry
      obtain ⟨hactive, newer, older, hsplit, hnewer⟩ := h.entry id other hentry
      refine ⟨hactive, (deviceId, conn) :: newer, older, by rw [hsplit, List.cons_append], ?_⟩
      intro hello hmem heq
      rw [hserving]
      rcases List.mem_cons.mp hmem with rfl | hmem
      · exact absurd heq.symm hid
      · exact hnewer hello hmem heq
  · intro id other hentry hmem
    rw [hregistered] at hentry
    by_cases hid : id = deviceId
    · simp [hid] at hentry
    · rw [if_neg hid] at hentry
      rw [hpast, List.mem_cons] at hmem
      rcases hmem with heq | hmem
      · cases heq
        exact absurd rfl hid
      · rw [hserving]
        exact h.absent id other hentry hmem

/-- A cleanup drops the entry of the device that its handler holds. -/
theorem tracks_of_cleanup {past past' : HubPast σ} {holder : Option Uuid} (h : Tracks hub past)
    (hpast : hellos past' = hellos past) (hphase : connection.phase ≠ .serving)
    (hown : ∀ id, hub.registered id = some conn → holder = some id)
    (hshared : ∀ id other, holder = some id → other ≠ conn → hub.isServing other = true →
      (id, other) ∉ hellos past)
    (hregistered : ∀ id, next.registered id =
      if holder = some id then none else hub.registered id) : Tracks next past' := by
  apply tracks_of_end hconnections h hpast hphase
  · intro id other hentry
    rw [hregistered] at hentry
    by_cases hholder : holder = some id
    · simp [hholder] at hentry
    · rw [if_neg hholder] at hentry
      exact ⟨hentry, fun heq ↦ absurd (hown id (heq ▸ hentry)) hholder⟩
  · intro id other hentry hne hlive hmem
    rw [hregistered] at hentry
    by_cases hholder : holder = some id
    · exact absurd hmem (hshared id other hholder hne hlive)
    · rwa [if_neg hholder] at hentry

end Insert

/-- One step preserves the invariant, when it ends connections cleanly. -/
theorem tracks_step {ctx : WsContext} {sink : WsSink σ} {hub next : Hub σ} {past : HubPast σ}
    {label : HubLabel} (h : Tracks hub past) (hclean : EndsCleanly hub past label)
    (hstep : hub.step ctx sink label = some next) : Tracks next ((hub, label) :: past) := by
  cases moves_of_step hstep with
  | accept conn stamp hnew hregistry hconnections =>
    exact tracks_of_accept hconnections h (by simp [hellos_cons, HubLabel.hello]) hnew
      (registered_congr hregistry)
  | hello conn frame arrival connection deviceId hconn hphase hhello hregistry hconnections =>
    have hpast : hellos ((hub, .frame conn frame arrival) :: past) =
        (deviceId, conn) :: hellos past := by
      simp [hellos_cons, HubLabel.hello, hhello]
    apply tracks_of_hello hconnections h hpast hconn hphase hphase
    intro id
    rw [registered, hregistry, KeyMap.get_insert, registered]
  | other conn frame arrival hhello hregistry hconnections =>
    apply h.mono (by simp [hellos_cons, HubLabel.hello, hhello])
      (fun other hknown ↦ hconnections ▸ hknown)
    · intro _ other _ hlive
      simpa [isServing_eq, hconnections] using hlive
    · intro deviceId other hregistered
      rw [registered_congr hregistry] at hregistered
      exact ⟨hregistered, by
        simpa [isServing_eq, isClosing_eq, hconnections] using
          (h.entry deviceId other hregistered).1⟩
    · intro deviceId other hregistered _
      exact .inl (registered_congr hregistry deviceId ▸ hregistered)
  | close conn connection hconn hregistry hconnections =>
    apply tracks_of_end hconnections h (by simp [hellos_cons, HubLabel.hello]) (by simp)
    · intro deviceId other hregistered
      exact ⟨registered_congr hregistry deviceId ▸ hregistered, fun _ ↦ rfl⟩
    · intro deviceId other hregistered _ _ _
      exact registered_congr hregistry deviceId ▸ hregistered
  | streamError conn connection hconn hregistry hconnections =>
    apply tracks_of_end hconnections h (by simp [hellos_cons, HubLabel.hello]) (by simp)
    · intro deviceId other hregistered
      rw [registered_congr hregistry] at hregistered
      exact ⟨hregistered, fun heq ↦ absurd (heq ▸ hregistered) (hclean deviceId)⟩
    · intro deviceId other hregistered _ _ _
      exact registered_congr hregistry deviceId ▸ hregistered
  | cleanup conn stamp connection hconn hphase hregistry hconnections =>
    obtain ⟨hown, hshared⟩ := hclean connection hconn
    apply tracks_of_cleanup hconnections h (by simp [hellos_cons, HubLabel.hello]) (by simp) hown
      hshared
    intro id
    cases hholder : connection.deviceIdHolder with
    | none => simp [registered, hregistry, hholder]
    | some holder => simp [registered, hregistry, hholder, KeyMap.get_remove, @eq_comm _ id]

/-! ## The registry follows the live connections -/

/-- The registry maps each device to the live connection that said hello for it last, and no entry
refers to a connection that has ended. -/
def FollowsLiveConnections (hub : Hub σ) (past : HubPast σ) : Prop :=
  (∀ deviceId, hub.registered deviceId = hub.latestSpeaker past deviceId) ∧
    ∀ deviceId conn, hub.registered deviceId = some conn → hub.isServing conn = true

theorem Tracks.followsLiveConnections {hub : Hub σ} {past : HubPast σ} (h : Tracks hub past)
    (hsettled : hub.Settled) : hub.FollowsLiveConnections past := by
  have hlive : ∀ deviceId conn, hub.registered deviceId = some conn → hub.isServing conn = true :=
    fun deviceId conn hentry ↦ (h.entry deviceId conn hentry).1.resolve_right
      (by simp [hsettled conn])
  refine ⟨fun deviceId ↦ ?_, hlive⟩
  cases hentry : hub.registered deviceId with
  | none =>
    have hnone : (hellos past).find?
        (fun hello ↦ hello.1 = deviceId ∧ hub.isServing hello.2 = true) = none := by
      rw [List.find?_eq_none]
      rintro ⟨id, conn⟩ hmem hspeaker
      simp only [decide_eq_true_eq] at hspeaker
      obtain ⟨rfl, hserving⟩ := hspeaker
      rw [h.absent id conn hentry hmem] at hserving
      cases hserving
    rw [latestSpeaker, hnone, Option.map_none]
  | some conn =>
    obtain ⟨-, newer, older, hsplit, hnewer⟩ := h.entry deviceId conn hentry
    have hskip : newer.find?
        (fun hello ↦ hello.1 = deviceId ∧ hub.isServing hello.2 = true) = none := by
      rw [List.find?_eq_none]
      intro hello hmem hspeaker
      simp only [decide_eq_true_eq] at hspeaker
      rw [hnewer hello hmem hspeaker.1] at hspeaker
      cases hspeaker.2
    rw [latestSpeaker, hsplit, List.find?_append, hskip, Option.none_or, List.find?_cons_of_pos]
    · rfl
    · simp [hlive deviceId conn hentry]

/-- In every run that ends connections cleanly the registry follows the live connections whenever
no cleanup is outstanding. -/
theorem follows_live_connections (ctx : WsContext) (sink : WsSink σ) (sessions : Sessions)
    (store : σ) (labels : List HubLabel) (hub : Hub σ) (past : HubPast σ)
    (hrun : Run.exec (Run.recorded (step ctx sink)) (start sessions store, []) labels =
      some (hub, past))
    (hclean : Run.Throughout (Run.recorded (step ctx sink))
      (fun visit label ↦ EndsCleanly visit.1 visit.2 label) (start sessions store, []) labels)
    (hsettled : hub.Settled) : hub.FollowsLiveConnections past := by
  have htracks : Tracks hub past := by
    refine Run.invariant_of_throughout (fun visit ↦ Tracks visit.1 visit.2)
      (fun u label v htracks hends hstep ↦ ?_) hclean hrun (tracks_start sessions store)
    obtain ⟨hnext, hrecord⟩ := Run.recorded_eq_some.mp hstep
    rw [hrecord]
    exact tracks_step htracks hends hnext
  exact htracks.followsLiveConnections hsettled

/-! ## Two overlapping connections of one device -/

/-- A hello of a device with default contents. -/
def sampleHello (deviceId : Uuid) : Frame :=
  .text (Envelope.toJson (Envelope.new .nil 0 .deviceHello deviceId (DeviceHello.toValue {
    name := "Pixel"
    deviceType := .android
    protocolVersion := 1
    pubkey := "AAAA"
    port := none
    manufacturer := none
    model := none
    hardwareId := none })))

def sampleArrival : Arrival where
  sink := { now := 1000, freshId := .nil }
  dispatch := sampleDraws

/-- The connection is opened again before the old one is cleaned up. -/
def reconnectOverlap : List HubLabel :=
  [.accept 0 sampleArrival.sink, .frame 0 (sampleHello ⟨1⟩) sampleArrival,
    .accept 1 sampleArrival.sink, .frame 1 (sampleHello ⟨1⟩) sampleArrival,
    .close 0, .cleanup 0 sampleArrival.sink]

/-- The connection is closed and cleaned up before it is opened again. -/
def reconnectAfterClose : List HubLabel :=
  [.accept 0 sampleArrival.sink, .frame 0 (sampleHello ⟨1⟩) sampleArrival,
    .close 0, .cleanup 0 sampleArrival.sink,
    .accept 1 sampleArrival.sink, .frame 1 (sampleHello ⟨1⟩) sampleArrival]

/-- A sink that keeps nothing. -/
def noopSink : WsSink Unit := fun _ _ store ↦ store

theorem follows_after_reconnect : ∃ hub past,
    Run.exec (Run.recorded (step sampleContext noopSink)) (start .empty (), [])
      reconnectAfterClose = some (hub, past) ∧ hub.FollowsLiveConnections past := by
  refine ⟨_, _, rfl, follows_live_connections sampleContext noopSink .empty ()
    reconnectAfterClose _ _ rfl ?_ ?_⟩
  · refine ⟨trivial, fun _ haccept ↦ ?_⟩
    cases haccept
    refine ⟨trivial, fun _ hhello ↦ ?_⟩
    cases hhello
    refine ⟨trivial, fun _ hclose ↦ ?_⟩
    cases hclose
    refine ⟨fun connection hconn ↦ ?_, fun _ hcleanup ↦ ?_⟩
    · cases hconn
      refine ⟨fun deviceId hentry ↦ ?_, fun deviceId other hholder hne hlive ↦ ?_⟩
      · change (if deviceId = ⟨1⟩ then some 0 else none) = some 0 at hentry
        split at hentry
        · next hid =>
          rw [hid]
          rfl
        · cases hentry
      · rw [isServing_eq] at hlive
        change Option.any _ (if other = 0 then _ else if other = 0 then _ else
          if other = 0 then _ else none) = true at hlive
        simp [hne] at hlive
    · cases hcleanup
      refine ⟨trivial, fun _ haccept ↦ ?_⟩
      cases haccept
      exact ⟨trivial, fun _ _ ↦ trivial⟩
  · intro conn
    rw [isClosing_eq]
    by_cases hone : conn = 1
    · subst hone
      rfl
    by_cases hzero : conn = 0
    · subst hzero
      rfl
    change Option.any _ (if conn = 1 then _ else if conn = 1 then _ else if conn = 0 then _ else
      if conn = 0 then _ else if conn = 0 then _ else if conn = 0 then _ else none) = false
    simp [hone, hzero]

/-- The cleanup of the older connection removes the sender of the newer one. -/
theorem overlap_loses_live_connection :
    ¬ ∀ (labels : List HubLabel) (hub : Hub Unit) (past : HubPast Unit),
      Run.exec (Run.recorded (step sampleContext noopSink)) (start .empty (), []) labels =
        some (hub, past) → hub.Settled → hub.FollowsLiveConnections past := by
  intro h
  have hfollows := h reconnectOverlap _ _ rfl fun conn ↦ by
    rw [isClosing_eq]
    by_cases hzero : conn = 0
    · subst hzero
      rfl
    by_cases hone : conn = 1
    · subst hone
      rfl
    change Option.any _ (if conn = 0 then _ else if conn = 0 then _ else if conn = 1 then _ else
      if conn = 1 then _ else if conn = 0 then _ else if conn = 0 then _ else none) = false
    simp [hone, hzero]
  have hentry := hfollows.1 ⟨1⟩
  revert hentry
  decide

end Hub

end PhoneBridge.Net
