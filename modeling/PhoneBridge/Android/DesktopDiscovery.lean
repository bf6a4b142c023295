import PhoneBridge.Android.NsdRegistrar
import PhoneBridge.Library.LastOf

/-!
# Which desktops are listed

The entry of a service depends on the callbacks of that service alone. After its last discovery
event only resolves call back, and one that succeeds writes the entry whether the service is still
there or not.
-/

namespace PhoneBridge.Android

open Library

namespace NsdRegistrar

/-- What a callback makes of the entry of a service. -/
def entryAfter (key : String) (entry : Option DiscoveredDesktop) :
    NsdCallback → Option DiscoveredDesktop
  | .found service =>
    if service.isDesktop = true ∧ service.serviceName = key then some (placeholder key) else entry
  | .resolveFailed other =>
    if other = key ∧ entry.map DiscoveredDesktop.isResolving = some true then none else entry
  | .resolved other s =>
    if other = key then
      match s.hostAddress with
      | none => entry
      | some host => some
        { instanceName := key, name := s.serviceName, host, port := s.port, isResolving := false }
    else entry
  | .lost service => if service.serviceName = key then none else entry

variable {r t : NsdRegistrar} {key : String} {c : NsdCallback}

theorem get_onServiceFound (service : NsdServiceInfo) :
    (r.onServiceFound service).desktops.get key =
      entryAfter key (r.desktops.get key) (.found service) := by
  unfold onServiceFound entryAfter
  by_cases hdesktop : service.isDesktop = true
  · by_cases hkey : key = service.serviceName
    · subst hkey
      simp [hdesktop]
    · have hne : service.serviceName ≠ key := fun h ↦ hkey h.symm
      simp [hdesktop, hkey, hne]
  · simp [hdesktop]

theorem get_onResolveFailed (other : String) :
    (r.onResolveFailed other).desktops.get key =
      entryAfter key (r.desktops.get key) (.resolveFailed other) := by
  simp only [onResolveFailed, entryAfter]
  by_cases hkey : other = key
  · subst hkey
    split_ifs with hresolving hboth hboth
    · simp
    · exact absurd ⟨rfl, hresolving⟩ hboth
    · exact absurd hboth.2 hresolving
    · rfl
  · have hne : key ≠ other := fun h ↦ hkey h.symm
    split_ifs with hresolving hboth hboth
    · exact absurd hboth.1 hkey
    · simp [hne]
    · exact absurd hboth.1 hkey
    · rfl

theorem get_onServiceResolved (other : String) (s : NsdServiceInfo) :
    (r.onServiceResolved other s).desktops.get key =
      entryAfter key (r.desktops.get key) (.resolved other s) := by
  simp only [onServiceResolved, entryAfter]
  cases hhost : s.hostAddress with
  | none => simp
  | some host =>
    by_cases hkey : key = other
    · subst hkey
      simp
    · have hne : other ≠ key := fun h ↦ hkey h.symm
      simp [hkey, hne]

theorem get_onServiceLost (service : NsdServiceInfo) :
    (r.onServiceLost service).desktops.get key =
      entryAfter key (r.desktops.get key) (.lost service) := by
  unfold onServiceLost entryAfter
  by_cases hkey : key = service.serviceName
  · subst hkey
    simp
  · have hne : service.serviceName ≠ key := fun h ↦ hkey h.symm
    simp [hkey, hne]

/-- What a callback does, pending or not. -/
def handle (r : NsdRegistrar) : NsdCallback → NsdRegistrar
  | .found service => r.onServiceFound service
  | .resolveFailed key => (r.onResolveFailed key).calledBack key
  | .resolved key s => (r.onServiceResolved key s).calledBack key
  | .lost service => r.onServiceLost service

theorem handle_of_step (h : r.step c = some t) : r.handle c = t := by
  cases c with
  | found service => exact Option.some.inj h
  | resolveFailed other =>
    simp only [step] at h
    split_ifs at h
    exact Option.some.inj h
  | resolved other s =>
    simp only [step] at h
    split_ifs at h
    exact Option.some.inj h
  | lost service => exact Option.some.inj h

/-- A callback changes the entry of its own service only. -/
theorem get_handle (c : NsdCallback) :
    (r.handle c).desktops.get key = entryAfter key (r.desktops.get key) c := by
  cases c with
  | found service => exact get_onServiceFound service
  | resolveFailed other => exact get_onResolveFailed other
  | resolved other s => exact get_onServiceResolved other s
  | lost service => exact get_onServiceLost service

theorem get_exec {callbacks : List NsdCallback} (h : Run.exec step r callbacks = some t) :
    t.desktops.get key = callbacks.foldl (entryAfter key) (r.desktops.get key) := by
  induction callbacks generalizing r with
  | nil =>
    obtain rfl := Option.some.inj h
    rfl
  | cons c callbacks ih =>
    obtain ⟨s, hstep, hrest⟩ := Option.bind_eq_some_iff.mp h
    rw [List.foldl_cons, ← get_handle c, handle_of_step hstep]
    exact ih hrest

/-! ## Pending resolves -/

theorem resolves_onResolveFailed (key : String) :
    (r.onResolveFailed key).resolves = r.resolves := by
  simp only [onResolveFailed]
  split <;> rfl

theorem resolves_onServiceResolved (key : String) (s : NsdServiceInfo) :
    (r.onServiceResolved key s).resolves = r.resolves := by
  simp only [onServiceResolved]
  split <;> rfl

/-- A resolve that calls back leaves those of other services pending. -/
theorem mem_resolves_calledBack {other : String} (hne : other ≠ key) (hkey : key ∈ r.resolves) :
    key ∈ (r.calledBack other).resolves :=
  (List.mem_erase_of_ne hne.symm).mpr hkey

theorem mem_resolves_of_finds (hc : c.Finds key) : key ∈ (r.handle c).resolves := by
  cases c with
  | found service =>
    obtain ⟨hdesktop, rfl⟩ := hc
    simp [handle, onServiceFound, hdesktop]
  | resolveFailed other => exact hc.elim
  | resolved other s => exact hc.elim
  | lost service => exact hc.elim

theorem mem_resolves_handle (hc : ¬ c.CallsBack key) (hkey : key ∈ r.resolves) :
    key ∈ (r.handle c).resolves := by
  cases c with
  | found service =>
    simp only [handle, onServiceFound]
    split
    · exact List.mem_cons_of_mem _ hkey
    · exact hkey
  | resolveFailed other =>
    apply mem_resolves_calledBack fun heq ↦ hc (.inl heq)
    rwa [resolves_onResolveFailed]
  | resolved other s =>
    apply mem_resolves_calledBack fun heq ↦ hc (.inr heq)
    rwa [resolves_onServiceResolved]
  | lost service => exact hkey

/-- A resolve that is pending before a run and not after it has called back. -/
theorem exists_callsBack {callbacks : List NsdCallback} (h : Run.exec step r callbacks = some t)
    (hpending : key ∈ r.resolves) (hquiet : key ∉ t.resolves) :
    ∃ c ∈ callbacks, c.CallsBack key := by
  induction callbacks generalizing r with
  | nil =>
    obtain rfl := Option.some.inj h
    exact absurd hpending hquiet
  | cons c callbacks ih =>
    obtain ⟨s, hstep, hrest⟩ := Option.bind_eq_some_iff.mp h
    by_cases hc : c.CallsBack key
    · exact ⟨c, List.mem_cons_self, hc⟩
    · have hstill : key ∈ s.resolves := handle_of_step hstep ▸ mem_resolves_handle hc hpending
      obtain ⟨later, hmem, hlater⟩ := ih hrest hstill
      exact ⟨later, List.mem_cons_of_mem _ hmem, hlater⟩

/-- A desktop that is found is resolved later, when no resolve is pending at the end. -/
theorem exists_callsBack_of_finds {front rest : List NsdCallback}
    (h : Run.exec step r (front ++ c :: rest) = some t) (hc : c.Finds key)
    (hquiet : key ∉ t.resolves) : ∃ later ∈ rest, later.CallsBack key := by
  rw [Run.exec_append] at h
  obtain ⟨before, -, hrun⟩ := Option.bind_eq_some_iff.mp h
  obtain ⟨after, hstep, hrest⟩ := Option.bind_eq_some_iff.mp hrun
  have hpending : key ∈ after.resolves := handle_of_step hstep ▸ mem_resolves_of_finds hc
  exact exists_callsBack hrest hpending hquiet

/-! ## After the last discovery event -/

/-- The entry says that it is being resolved. -/
def Resolving (entry : Option DiscoveredDesktop) : Prop :=
  entry.map DiscoveredDesktop.isResolving = some true

variable {entry : Option DiscoveredDesktop}

theorem not_resolving_none : ¬ Resolving none := nofun

theorem entryAfter_resolved {s : NsdServiceInfo} {host : String}
    (hhost : s.hostAddress = some host) : entryAfter key entry (.resolved key s) =
      some { instanceName := key, name := s.serviceName, host, port := s.port,
             isResolving := false } := by
  simp [entryAfter, hhost]

theorem entryAfter_of_givesAddress (entry : Option DiscoveredDesktop) (hc : c.GivesAddress key) :
    ∃ d, entryAfter key entry c = some d ∧ d.isResolving = false := by
  cases c with
  | found service => exact hc.elim
  | resolveFailed other => exact hc.elim
  | resolved other s =>
    obtain ⟨rfl, haddress⟩ := hc
    obtain ⟨host, hhost⟩ := Option.isSome_iff_exists.mp haddress
    exact ⟨_, entryAfter_resolved hhost, rfl⟩
  | lost service => exact hc.elim

theorem entryAfter_of_fails (hc : c.Fails key) (hentry : Resolving entry) :
    entryAfter key entry c = none := by
  cases c with
  | found service => exact hc.elim
  | resolveFailed other => exact if_pos ⟨hc, hentry⟩
  | resolved other s => exact hc.elim
  | lost service => exact hc.elim

/-- A callback that is no discovery event and gives no address leaves the entry alone, unless it is
the failure of a resolve that the entry waits for. -/
theorem entryAfter_of_silent (hdiscovers : ¬ c.Discovers key) (haddress : ¬ c.GivesAddress key)
    (hfails : c.Fails key → ¬ Resolving entry) : entryAfter key entry c = entry := by
  cases c with
  | found service => exact if_neg fun h ↦ hdiscovers (.inl h)
  | resolveFailed other => exact if_neg fun h ↦ hfails h.1 h.2
  | resolved other s =>
    by_cases hkey : other = key
    · have hnone : s.hostAddress = none := by
        by_contra hsome
        exact haddress ⟨hkey, Option.isSome_iff_ne_none.mpr hsome⟩
      simp [entryAfter, hnone]
    · exact if_neg hkey
  | lost service => exact if_neg fun h ↦ hdiscovers (.inr h)

/-- An entry that does not wait for a resolve is written by the next address only. -/
theorem settled_foldl {rest : List NsdCallback} (hrest : ∀ c ∈ rest, ¬ c.Discovers key)
    (hentry : ¬ Resolving entry) :
    ¬ Resolving (rest.foldl (entryAfter key) entry) ∧
      (rest.foldl (entryAfter key) entry = none ↔
        entry = none ∧ ∀ c ∈ rest, ¬ c.GivesAddress key) := by
  induction rest generalizing entry with
  | nil => simpa using hentry
  | cons c rest ih =>
    obtain ⟨hc, hrest⟩ := List.forall_mem_cons.mp hrest
    rw [List.foldl_cons, List.forall_mem_cons]
    by_cases haddress : c.GivesAddress key
    · obtain ⟨d, hd, hresolving⟩ := entryAfter_of_givesAddress entry haddress
      have hsettled : ¬ Resolving (some d) := by simp [Resolving, hresolving]
      obtain ⟨hstays, hnone⟩ := ih hrest hsettled
      rw [hd]
      exact ⟨hstays, iff_of_false (fun h ↦ by cases (hnone.mp h).1) fun h ↦ h.2.1 haddress⟩
    · rw [entryAfter_of_silent hc haddress fun _ ↦ hentry, and_iff_right haddress]
      exact ih hrest hentry

theorem callsBack_of_givesAddress (hc : c.GivesAddress key) : c.CallsBack key := by
  cases c with
  | found service => exact hc.elim
  | resolveFailed other => exact hc.elim
  | resolved other s => exact .inr hc.1
  | lost service => exact hc.elim

/-- The callbacks of other services do not change the entry. -/
theorem foldl_of_others {rest : List NsdCallback} (hdiscovers : ∀ c ∈ rest, ¬ c.Discovers key)
    (hcallsBack : ∀ c ∈ rest, ¬ c.CallsBack key) :
    rest.foldl (entryAfter key) entry = entry := by
  induction rest with
  | nil => rfl
  | cons c rest ih =>
    obtain ⟨hc, hdiscovers⟩ := List.forall_mem_cons.mp hdiscovers
    obtain ⟨hother, hcallsBack⟩ := List.forall_mem_cons.mp hcallsBack
    have hsilent : entryAfter key entry c = entry :=
      entryAfter_of_silent hc (fun h ↦ hother (callsBack_of_givesAddress h))
        fun h ↦ absurd (.inl h) hother
    rw [List.foldl_cons, hsilent]
    exact ih hdiscovers hcallsBack

/-- An entry that waits for a resolve does so until one fails or gives an address. -/
theorem resolving_foldl {rest : List NsdCallback} (hrest : ∀ c ∈ rest, ¬ c.Discovers key)
    (hentry : Resolving entry) :
    Resolving (rest.foldl (entryAfter key) entry) ↔
      ∀ c ∈ rest, ¬ (c.Fails key ∨ c.GivesAddress key) := by
  induction rest generalizing entry with
  | nil => simpa using hentry
  | cons c rest ih =>
    obtain ⟨hc, hrest⟩ := List.forall_mem_cons.mp hrest
    rw [List.foldl_cons, List.forall_mem_cons]
    by_cases haddress : c.GivesAddress key
    · obtain ⟨d, hd, hresolving⟩ := entryAfter_of_givesAddress entry haddress
      have hsettled : ¬ Resolving (some d) := by simp [Resolving, hresolving]
      rw [hd]
      exact iff_of_false (settled_foldl hrest hsettled).1 fun h ↦ h.1 (.inr haddress)
    · by_cases hfails : c.Fails key
      · rw [entryAfter_of_fails hfails hentry]
        exact iff_of_false (settled_foldl hrest not_resolving_none).1 fun h ↦ h.1 (.inl hfails)
      · have hneither : ¬ (c.Fails key ∨ c.GivesAddress key) := not_or.mpr ⟨hfails, haddress⟩
        rw [entryAfter_of_silent hc haddress fun h ↦ absurd h hfails, and_iff_right hneither]
        exact ih hrest hentry

/-! ## Whole runs -/

/-- The list tracks discovery: services that were lost last are not in it, services that were found
last and resolved last with an address are, and no entry waits for a resolve. -/
structure Tracks (callbacks : List NsdCallback) (r : NsdRegistrar) : Prop where
  lost : ∀ key event rest, LastOf (NsdCallback.Discovers key) callbacks event rest →
    event.Loses key → r.desktops.get key = none
  found : ∀ key event rest s later host, LastOf (NsdCallback.Discovers key) callbacks event rest →
    event.Finds key → LastOf (NsdCallback.CallsBack key) callbacks (.resolved key s) later →
    s.hostAddress = some host →
    ∃ d, r.desktops.get key = some d ∧ d.host = some host ∧ d.port = s.port
  settled : ∀ key d, r.desktops.get key = some d → d.isResolving = false

/-- After a service was lost last no resolve gives an address, and after it was found last some
resolve fails or gives one. -/
structure Settles (callbacks : List NsdCallback) : Prop where
  lost : ∀ key event rest, LastOf (NsdCallback.Discovers key) callbacks event rest →
    event.Loses key → ∀ c ∈ rest, ¬ c.GivesAddress key
  found : ∀ key event rest, LastOf (NsdCallback.Discovers key) callbacks event rest →
    event.Finds key → ∃ c ∈ rest, c.Fails key ∨ c.GivesAddress key

theorem entryAfter_of_loses (hc : c.Loses key) : entryAfter key entry c = none := by
  cases c with
  | found service => exact hc.elim
  | resolveFailed other => exact hc.elim
  | resolved other s => exact hc.elim
  | lost service => exact if_pos hc

theorem entryAfter_of_finds (hc : c.Finds key) :
    entryAfter key entry c = some (placeholder key) := by
  cases c with
  | found service => exact if_pos hc
  | resolveFailed other => exact hc.elim
  | resolved other s => exact hc.elim
  | lost service => exact hc.elim

variable {callbacks rest : List NsdCallback} {event : NsdCallback}

/-- The entry at the end of a run, from the entry before some callback of it. -/
theorem get_of_split (key : String) {front : List NsdCallback}
    (hrun : Run.exec step {} callbacks = some r) (hsplit : callbacks = front ++ event :: rest) :
    ∃ entry, r.desktops.get key = rest.foldl (entryAfter key) (entryAfter key entry event) := by
  refine ⟨front.foldl (entryAfter key) none, ?_⟩
  rw [get_exec hrun, hsplit, List.foldl_append]
  rfl

theorem get_of_lost (hrun : Run.exec step {} callbacks = some r)
    (hlast : LastOf (NsdCallback.Discovers key) callbacks event rest) (hlost : event.Loses key) :
    ¬ Resolving (r.desktops.get key) ∧
      (r.desktops.get key = none ↔ ∀ c ∈ rest, ¬ c.GivesAddress key) := by
  obtain ⟨front, hsplit⟩ := hlast.split
  obtain ⟨entry, hget⟩ := get_of_split key hrun hsplit
  have hsettled := settled_foldl hlast.none_after not_resolving_none
  rw [hget, entryAfter_of_loses hlost]
  exact ⟨hsettled.1, hsettled.2.trans (and_iff_right rfl)⟩

theorem resolving_of_found (hrun : Run.exec step {} callbacks = some r)
    (hlast : LastOf (NsdCallback.Discovers key) callbacks event rest) (hfound : event.Finds key) :
    Resolving (r.desktops.get key) ↔ ∀ c ∈ rest, ¬ (c.Fails key ∨ c.GivesAddress key) := by
  obtain ⟨front, hsplit⟩ := hlast.split
  obtain ⟨entry, hget⟩ := get_of_split key hrun hsplit
  rw [hget, entryAfter_of_finds hfound]
  exact resolving_foldl hlast.none_after rfl

theorem not_resolving_of_undiscovered (hrun : Run.exec step {} callbacks = some r)
    (hnone : ∀ c ∈ callbacks, ¬ c.Discovers key) : ¬ Resolving (r.desktops.get key) := by
  rw [get_exec hrun]
  exact (settled_foldl hnone not_resolving_none).1

/-- Once no resolve is pending, nothing has happened to a service after the last resolve of it that
called back, if it was found last. -/
theorem get_of_resolved {s : NsdServiceInfo} {later : List NsdCallback} {host : String}
    (hrun : Run.exec step {} callbacks = some r) (hquiet : r.resolves = [])
    (hlast : LastOf (NsdCallback.Discovers key) callbacks event rest) (hfound : event.Finds key)
    (hresolved : LastOf (NsdCallback.CallsBack key) callbacks (.resolved key s) later)
    (hhost : s.hostAddress = some host) :
    ∃ d, r.desktops.get key = some d ∧ d.host = some host ∧ d.port = s.port := by
  obtain ⟨front, hsplit⟩ := hresolved.split
  have hundiscovered : ∀ c ∈ later, ¬ c.Discovers key := by
    intro c hc hdiscovers
    have hlog : callbacks = (front ++ [.resolved key s]) ++ later := by simp [hsplit]
    have hevent := hlast.mem_of_mem hlog ⟨c, hc, hdiscovers⟩
    obtain ⟨before, after, hparts⟩ := List.append_of_mem hevent
    rw [hlog, hparts, ← List.append_assoc] at hrun
    obtain ⟨last, hmem, hcalls⟩ := exists_callsBack_of_finds hrun hfound (by simp [hquiet])
    refine hresolved.none_after last ?_ hcalls
    rw [hparts]
    exact List.mem_append_right _ (List.mem_cons_of_mem _ hmem)
  obtain ⟨entry, hget⟩ := get_of_split key hrun hsplit
  rw [entryAfter_resolved hhost, foldl_of_others hundiscovered hresolved.none_after] at hget
  exact ⟨_, hget, rfl, rfl⟩

/-- Once no resolve is pending, the list tracks discovery exactly when the resolves of every service
have settled. -/
theorem tracks_discovery_iff (hrun : Run.exec step {} callbacks = some r)
    (hquiet : r.resolves = []) : Tracks callbacks r ↔ Settles callbacks := by
  constructor
  · intro h
    refine ⟨fun key event rest hlast hlost ↦ ?_, fun key event rest hlast hfound ↦ ?_⟩
    · exact (get_of_lost hrun hlast hlost).2.mp (h.lost key event rest hlast hlost)
    · by_contra hnone
      have hresolving := (resolving_of_found hrun hlast hfound).mpr
        fun c hc hcalls ↦ hnone ⟨c, hc, hcalls⟩
      obtain ⟨d, hd, htrue⟩ := Option.map_eq_some_iff.mp hresolving
      rw [h.settled key d hd] at htrue
      cases htrue
  · intro h
    refine ⟨fun key event rest hlast hlost ↦ ?_, fun key event rest s later host hlast hfound ↦ ?_,
      fun key d hd ↦ ?_⟩
    · exact (get_of_lost hrun hlast hlost).2.mpr (h.lost key event rest hlast hlost)
    · exact get_of_resolved hrun hquiet hlast hfound
    · have hsettled : ¬ Resolving (r.desktops.get key) := by
        by_cases hany : ∃ c ∈ callbacks, c.Discovers key
        · obtain ⟨event, rest, hlast⟩ := exists_lastOf hany
          rcases hlast.holds with hfound | hlost
          · rw [resolving_of_found hrun hlast hfound]
            obtain ⟨c, hc, hcalls⟩ := h.found key event rest hlast hfound
            exact fun hnone ↦ hnone c hc hcalls
          · exact (get_of_lost hrun hlast hlost).1
        · exact not_resolving_of_undiscovered hrun fun c hc hd ↦ hany ⟨c, hc, hd⟩
      rw [hd] at hsettled
      exact Bool.eq_false_iff.mpr fun htrue ↦ hsettled (congrArg some htrue)

/-- A desktop for examples. -/
def sampleService : NsdServiceInfo where
  serviceName := "desk"
  serviceType := "_phonebridge._tcp."
  hostAddress := some "192.168.0.2"
  port := 8765

theorem found_desktop_is_tracked :
    ∃ r, Run.exec step {} [.found sampleService, .resolved "desk" sampleService] = some r ∧
      (Tracks [.found sampleService, .resolved "desk" sampleService] r ↔
        Settles [.found sampleService, .resolved "desk" sampleService]) :=
  ⟨_, rfl, tracks_discovery_iff rfl rfl⟩

/-- A resolve that calls back after its service was lost, and one that succeeds without an
address. -/
theorem lost_desktop_is_listed :
    (∃ r, Run.exec step {} [.found sampleService, .lost sampleService,
        .resolved "desk" sampleService] = some r ∧ r.resolves = [] ∧
      ¬ Tracks [.found sampleService, .lost sampleService, .resolved "desk" sampleService] r) ∧
    ∃ r, Run.exec step {} [.found sampleService,
        .resolved "desk" { sampleService with hostAddress := none }] = some r ∧ r.resolves = [] ∧
      ¬ Tracks [.found sampleService,
        .resolved "desk" { sampleService with hostAddress := none }] r := by
  refine ⟨⟨_, rfl, rfl, fun h ↦ ?_⟩, ⟨_, rfl, rfl, fun h ↦ ?_⟩⟩
  · have hlast : LastOf (NsdCallback.Discovers "desk") [.found sampleService, .lost sampleService,
        .resolved "desk" sampleService] (.lost sampleService)
        [.resolved "desk" sampleService] := by
      refine ⟨⟨[.found sampleService], rfl⟩, .inr rfl, fun later hlater ↦ ?_⟩
      rw [List.mem_singleton.mp hlater]
      rintro (hfinds | hloses)
      · exact hfinds.elim
      · exact hloses.elim
    have hnone := h.lost "desk" _ _ hlast rfl
    cases hnone
  · have hsettled := h.settled "desk" (placeholder "desk") rfl
    cases hsettled

end NsdRegistrar

end PhoneBridge.Android
