import PhoneBridge.MessageCenter.CallBookkeeping

/-!
# The end of a call in the history

`on_call_history` adds the duration of each call to its start, which the phone chooses freely. Where
the sum does not fit 64 bits a build with overflow checks ends the connection task in the middle of
the history, and a build without them stores a call that ends before it has started.
-/

namespace PhoneBridge.MessageCenter

open Library Proto Storage

/-! ## The loop in both builds -/

/-- Does the build check its additions? -/
inductive OverflowChecks
  | on
  | off
  deriving DecidableEq, Repr

/-- The sum fits 64 bits. -/
def SumFits (a b : Int64) : Prop :=
  -2 ^ 63 ≤ a.toInt + b.toInt ∧ a.toInt + b.toInt < 2 ^ 63

instance (a b : Int64) : Decidable (SumFits a b) :=
  inferInstanceAs (Decidable (_ ∧ _))

/-- An addition of `i64`; `none` when it panics. -/
def addI64 (checks : OverflowChecks) (a b : Int64) : Option Int64 :=
  match checks with
  | .on => if SumFits a b then some (a + b) else none
  | .off => some (a + b)

/-- `duration as i64 * 1000`, which always fits. -/
def durationMillis (seconds : UInt32) : Int64 := seconds.toUInt64.toInt64 * 1000

section Loop

variable (checks : OverflowChecks) (deviceId : Uuid)

/-- The row of an entry; `none` when computing its end panics. -/
def historyRow (entry : CallHistoryEntry) : Option CallRow :=
  match entry.durationSeconds with
  | none => some (CenterSink.callHistoryRow deviceId entry)
  | some seconds =>
    (addI64 checks entry.startedAt (durationMillis seconds)).map fun endedAt ↦
      { CenterSink.callHistoryRow deviceId entry with endedAt := some endedAt }

/-- The loop over the entries; an error is the database that a panic leaves behind. -/
def onCallHistoryIn : List CallHistoryEntry → Db → Except Db Db
  | [], db => .ok db
  | entry :: entries, db =>
    match historyRow checks deviceId entry with
    | none => .error db
    | some row => onCallHistoryIn entries (CenterSink.insertCall row db)

end Loop

/-! ## What a history should leave -/

/-- A row is that of an entry, and its end is the start plus the duration in milliseconds. -/
structure StoredCall (deviceId : Uuid) (entry : CallHistoryEntry) (row : CallRow) : Prop where
  columns : ∃ id endedAt, row = { CenterSink.callHistoryRow deviceId entry with id, endedAt }
  ended : row.endedAt.map Int64.toInt =
    entry.durationSeconds.map fun seconds ↦ entry.startedAt.toInt + seconds.toNat * 1000
  ordered : ∀ endedAt ∈ row.endedAt, row.startedAt ≤ endedAt

/-- The history is handled to its end and stores one row per entry. -/
def HandlesHistory (checks : OverflowChecks) (deviceId : Uuid) (db : Db) (env : CallHistory) :
    Prop :=
  ∃ after added, onCallHistoryIn checks deviceId env.entries db = .ok after ∧
    after.calls.rows = db.calls.rows ++ added ∧
    List.Forall₂ (StoredCall deviceId) env.entries added

/-- The end of a call is not past the largest 64-bit time. -/
def EndsInTime (entry : CallHistoryEntry) : Prop :=
  ∀ seconds ∈ entry.durationSeconds, entry.startedAt.toInt + seconds.toNat * 1000 < 2 ^ 63

instance (entry : CallHistoryEntry) : Decidable (EndsInTime entry) :=
  inferInstanceAs (Decidable (∀ seconds ∈ entry.durationSeconds, _))

/-! ## Arithmetic -/

theorem toInt_durationMillis (seconds : UInt32) :
    (durationMillis seconds).toInt = seconds.toNat * 1000 := by
  have hlt := seconds.toNat_lt
  have hthousand : (1000 : Int64).toInt = 1000 := by decide
  have hseconds : seconds.toUInt64.toInt64.toInt = seconds.toNat := by
    calc seconds.toUInt64.toInt64.toInt
        = seconds.toUInt64.toBitVec.toInt := rfl
      _ = (seconds.toNat : Int).bmod (2 ^ 64) := by
        rw [BitVec.toInt_eq_toNat_bmod, UInt64.toNat_toBitVec, UInt32.toNat_toUInt64]
      _ = seconds.toNat := Int.bmod_eq_of_le (by omega) (by omega)
  rw [durationMillis, Int64.toInt_mul, hseconds, hthousand]
  exact Int.bmod_eq_of_le (by omega) (by omega)

theorem toInt_add_of_fits {a b : Int64} (h : SumFits a b) :
    (a + b).toInt = a.toInt + b.toInt := by
  obtain ⟨hlow, hhigh⟩ := h
  rw [Int64.toInt_add]
  exact Int.bmod_eq_of_le (by omega) (by omega)

theorem sumFits_iff (startedAt : Int64) (seconds : UInt32) :
    SumFits startedAt (durationMillis seconds) ↔
      startedAt.toInt + seconds.toNat * 1000 < 2 ^ 63 := by
  have hlow := startedAt.le_toInt
  rw [SumFits, toInt_durationMillis]
  omega

/-! ## One entry -/

section Entry

variable (deviceId : Uuid) (entry : CallHistoryEntry)

/-- Without checks every entry has a row, that of the sink. -/
theorem historyRow_off :
    historyRow .off deviceId entry = some (CenterSink.callHistoryRow deviceId entry) := by
  cases hduration : entry.durationSeconds <;>
    simp [historyRow, addI64, hduration, CenterSink.callHistoryRow, durationMillis]

variable {deviceId entry}

theorem endsInTime_iff {seconds : UInt32} (hduration : entry.durationSeconds = some seconds) :
    EndsInTime entry ↔ SumFits entry.startedAt (durationMillis seconds) := by
  rw [sumFits_iff, EndsInTime, hduration]
  simp

/-- With checks an entry has the same row when its end fits, and none otherwise. -/
theorem historyRow_on (entry : CallHistoryEntry) : historyRow .on deviceId entry =
    if EndsInTime entry then some (CenterSink.callHistoryRow deviceId entry) else none := by
  cases hduration : entry.durationSeconds with
  | none => simp [historyRow, hduration, EndsInTime]
  | some seconds =>
    have hoff := historyRow_off deviceId entry
    simp only [historyRow, hduration, addI64, Option.map_some] at hoff
    by_cases hends : EndsInTime entry
    · have hfits := (endsInTime_iff hduration).mp hends
      simp only [historyRow, hduration, addI64, hfits, hends, reduceIte, Option.map_some, hoff]
    · have hoverflow := (endsInTime_iff hduration).not.mp hends
      simp only [historyRow, hduration, addI64, hoverflow, hends, reduceIte, Option.map_none]

/-- The row that is stored for an entry is right when the end of the call fits. -/
theorem storedCall_iff (id : Nat) :
    StoredCall deviceId entry { CenterSink.callHistoryRow deviceId entry with id } ↔
      EndsInTime entry := by
  cases hduration : entry.durationSeconds with
  | none =>
    have hended : (CenterSink.callHistoryRow deviceId entry).endedAt = none := by
      simp [CenterSink.callHistoryRow, hduration]
    constructor
    · intro _ seconds hseconds
      rw [hduration] at hseconds
      cases hseconds
    · intro _
      exact {
        columns := ⟨id, _, rfl⟩
        ended := by simp [hended, hduration]
        ordered := by simp [hended] }
  | some seconds =>
    have hended : (CenterSink.callHistoryRow deviceId entry).endedAt =
        some (entry.startedAt + durationMillis seconds) := by
      simp [CenterSink.callHistoryRow, hduration, durationMillis]
    rw [endsInTime_iff hduration]
    constructor
    · intro h
      have hsum : (entry.startedAt + durationMillis seconds).toInt =
          entry.startedAt.toInt + seconds.toNat * 1000 := by
        simpa [hended, hduration] using h.ended
      have hhigh := (entry.startedAt + durationMillis seconds).toInt_lt
      rw [sumFits_iff]
      omega
    · intro hfits
      have hsum := toInt_add_of_fits hfits
      rw [toInt_durationMillis] at hsum
      refine { columns := ⟨id, _, rfl⟩, ended := ?_, ordered := ?_ }
      · simp [hended, hduration, hsum]
      · intro endedAt h
        obtain rfl : entry.startedAt + durationMillis seconds = endedAt := by
          simpa [hended] using h
        change entry.startedAt ≤ _
        rw [Int64.le_iff_toInt_le]
        omega

end Entry

/-! ## Whole histories -/

section History

variable (deviceId : Uuid) (entries : List CallHistoryEntry) (db : Db)

/-- Without checks the loop is that of the sink. -/
theorem onCallHistoryIn_off : onCallHistoryIn .off deviceId entries db =
    .ok (CenterSink.onCallHistory deviceId db { entries }) := by
  rw [CenterSink.onCallHistory]
  induction entries generalizing db with
  | nil => rfl
  | cons entry entries ih => rw [onCallHistoryIn, historyRow_off]; exact ih _

/-- With checks it comes to its end exactly when every call ends in time, and does the same. -/
theorem onCallHistoryIn_on {after : Db} : onCallHistoryIn .on deviceId entries db = .ok after ↔
    (∀ entry ∈ entries, EndsInTime entry) ∧
      after = CenterSink.onCallHistory deviceId db { entries } := by
  rw [CenterSink.onCallHistory]
  induction entries generalizing db with
  | nil => simp [onCallHistoryIn, eq_comm]
  | cons entry entries ih =>
    rw [onCallHistoryIn, historyRow_on]
    by_cases hends : EndsInTime entry
    · simp [hends, ih]
    · simp [hends]

variable {deviceId entries db}

/-- A call of a known device gets the next number. -/
theorem insertCall_of_known {c : CallRow} (h : c.deviceId ∈ db.deviceIds) :
    (CenterSink.insertCall c db).calls.rows = db.calls.rows ++ [{ c with id := db.calls.last + 1 }] ∧
      (CenterSink.insertCall c db).deviceIds = db.deviceIds := by
  rw [toTables_insertCall, if_pos h]
  exact ⟨rfl, rfl⟩

theorem insertCall_of_unknown {c : CallRow} (h : c.deviceId ∉ db.deviceIds) :
    CenterSink.insertCall c db = db :=
  Db.eq_of_toTables (by rw [toTables_insertCall, if_neg h])

/-- A known device gets one row per entry. -/
theorem rows_onCallHistory (h : deviceId ∈ db.deviceIds) : ∃ added,
    (CenterSink.onCallHistory deviceId db { entries }).calls.rows = db.calls.rows ++ added ∧
      List.Forall₂ (fun entry row ↦
        ∃ id, row = { CenterSink.callHistoryRow deviceId entry with id }) entries added := by
  rw [CenterSink.onCallHistory]
  induction entries generalizing db with
  | nil => exact ⟨[], (List.append_nil _).symm, .nil⟩
  | cons entry entries ih =>
    obtain ⟨hfirst, hids⟩ := insertCall_of_known (c := CenterSink.callHistoryRow deviceId entry) h
    obtain ⟨added, hrows, hadded⟩ := ih (hids ▸ h)
    refine ⟨_ :: added, ?_, .cons ⟨db.calls.last + 1, rfl⟩ hadded⟩
    rw [List.foldl_cons, hrows, hfirst, List.append_assoc, List.singleton_append]

/-- The rows of the entries are right exactly when every call ends in time. -/
theorem forall₂_storedCall_iff {rows : List CallRow}
    (h : List.Forall₂ (fun entry row ↦
      ∃ id, row = { CenterSink.callHistoryRow deviceId entry with id }) entries rows) :
    List.Forall₂ (StoredCall deviceId) entries rows ↔ ∀ entry ∈ entries, EndsInTime entry := by
  induction h with
  | nil => simp
  | cons hrow _ ih =>
    obtain ⟨id, rfl⟩ := hrow
    rw [List.forall₂_cons, storedCall_iff, ih, List.forall_mem_cons]

/-- An unknown device gets none. -/
theorem onCallHistory_of_unknown (h : deviceId ∉ db.deviceIds) :
    CenterSink.onCallHistory deviceId db { entries } = db := by
  rw [CenterSink.onCallHistory]
  induction entries with
  | nil => rfl
  | cons entry entries ih => rw [List.foldl_cons, insertCall_of_unknown h, ih]

variable (deviceId db)

/-- What the sink stores for a history is right exactly when every call ends in time, and complete
when the device is known. -/
theorem stored_iff (env : CallHistory) :
    (∃ added, (CenterSink.onCallHistory deviceId db env).calls.rows = db.calls.rows ++ added ∧
      List.Forall₂ (StoredCall deviceId) env.entries added) ↔
      (env.entries ≠ [] → deviceId ∈ db.deviceIds) ∧ ∀ entry ∈ env.entries, EndsInTime entry := by
  by_cases hknown : deviceId ∈ db.deviceIds
  · obtain ⟨rows, hrows, hforall⟩ := @rows_onCallHistory deviceId env.entries db hknown
    rw [show CenterSink.onCallHistory deviceId db env =
      CenterSink.onCallHistory deviceId db { entries := env.entries } from rfl, hrows]
    constructor
    · rintro ⟨added, happend, hstored⟩
      obtain rfl : rows = added := List.append_cancel_left happend
      exact ⟨fun _ ↦ hknown, (forall₂_storedCall_iff hforall).mp hstored⟩
    · rintro ⟨-, hends⟩
      exact ⟨rows, rfl, (forall₂_storedCall_iff hforall).mpr hends⟩
  · rw [onCallHistory_of_unknown hknown]
    constructor
    · rintro ⟨added, hrows, hforall⟩
      obtain rfl : added = [] := by simpa using hrows
      rw [List.forall₂_nil_right_iff] at hforall
      simp [hforall]
    · rintro ⟨hnone, -⟩
      have hempty : env.entries = [] := by_contra fun hne ↦ hknown (hnone hne)
      exact ⟨[], (List.append_nil _).symm, by rw [hempty]; exact .nil⟩

/-- In both builds a history is handled as it should be exactly when the device is known and every
call ends in time. -/
theorem history_times_fit_iff (checks : OverflowChecks) (env : CallHistory) :
    HandlesHistory checks deviceId db env ↔
      (env.entries ≠ [] → deviceId ∈ db.deviceIds) ∧ ∀ entry ∈ env.entries, EndsInTime entry := by
  rw [← stored_iff, HandlesHistory]
  cases checks with
  | off =>
    constructor
    · rintro ⟨after, added, hrun, hadded⟩
      rw [onCallHistoryIn_off, Except.ok.injEq] at hrun
      exact ⟨added, hrun ▸ hadded⟩
    · rintro ⟨added, hadded⟩
      exact ⟨_, added, onCallHistoryIn_off deviceId env.entries db, hadded⟩
  | on =>
    constructor
    · rintro ⟨after, added, hrun, hadded⟩
      obtain ⟨-, rfl⟩ := (onCallHistoryIn_on deviceId env.entries db).mp hrun
      exact ⟨added, hadded⟩
    · rintro ⟨added, hadded⟩
      have hends := ((stored_iff deviceId db env).mp ⟨added, hadded⟩).2
      exact ⟨_, added, (onCallHistoryIn_on deviceId env.entries db).mpr ⟨hends, rfl⟩, hadded⟩

end History

/-- A call of one second that starts at the largest 64-bit time. -/
def lateCall : CallHistoryEntry where
  phoneNumber := "1"
  contactName := none
  startedAt := Int64.maxValue
  durationSeconds := some 1
  direction := .incoming
  simSlot := none

/-- In no build is every history of a known device handled as it should be. -/
theorem late_call_overflows : ¬ ∃ checks, ∀ (deviceId : Uuid) (db : Db) (env : CallHistory),
    deviceId ∈ db.deviceIds → HandlesHistory checks deviceId db env := by
  rintro ⟨checks, h⟩
  have hhandled := h ⟨1⟩ sampleKnown.store { entries := [lateCall] } samplePhone_known
  have hends := ((history_times_fit_iff _ _ checks _).mp hhandled).2 lateCall (by simp)
  have hfits : Int64.maxValue.toInt + (1 : UInt32).toNat * 1000 < 2 ^ 63 := hends 1 rfl
  rw [Int64.toInt_maxValue, UInt32.toNat_one] at hfits
  omega

end PhoneBridge.MessageCenter
