import PhoneBridge.MessageCenter.CallBookkeeping
import PhoneBridge.Storage.Counts
import PhoneBridge.Storage.Outages

/-!
# The counters of the REST API

`GET /api/v1/notifications/stats` and `GET /api/v1/dashboard`: both take the total from the length of a
listing, which is cut at a limit of its own, and the other numbers from statements that count all
rows.
-/

namespace PhoneBridge.MessageCenter

open Library Select Storage

/-! ## The handlers -/

/-- Why a query has no answer. -/
inductive QueryError
  | select (e : SelectError)
  | outage (message : String)

/-- The answer to a query that the database may be kept from executing. -/
def queried {α : Type} (outage : Outage) (answer : Except SelectError α) : Except QueryError α :=
  match outage with
  | some message => .error (.outage message)
  | none => answer.mapError .select

/-- `limit.unwrap_or(usual).clamp(1, most)` -/
def clampedLimit (limit : Option Int64) (usual most : Int64) : Int64 :=
  let limit := limit.getD usual
  if limit < 1 then 1 else if most < limit then most else limit

theorem clampedLimit_range {limit : Option Int64} {usual most : Int64} (hmost : 1 ≤ most) :
    1 ≤ clampedLimit limit usual most ∧ clampedLimit limit usual most ≤ most := by
  rw [clampedLimit]
  split_ifs with hlow hhigh
  · exact ⟨Int64.le_refl 1, hmost⟩
  · exact ⟨hmost, Int64.le_refl most⟩
  · exact ⟨Int64.not_lt.mp hlow, Int64.not_lt.mp hhigh⟩

structure PackageCount where
  package : String
  count : Nat
  deriving DecidableEq, Repr

structure NotificationsStats where
  total : Nat
  unread : Nat
  byPackage : List PackageCount
  deriving DecidableEq, Repr

structure NotificationCounts where
  total : Nat
  unread : Nat
  deriving DecidableEq, Repr

structure SmsCounts where
  total : Nat
  conversations : Nat
  deriving DecidableEq, Repr

structure DashboardBody where
  pairedDevices : Nat
  onlineDevices : Nat
  notifications : NotificationCounts
  sms : SmsCounts
  calls : CallCounts
  deriving DecidableEq, Repr

/-- The query that has failed. -/
inductive DashboardError
  | query (name : String) (e : QueryError)

section Handlers

variable (db : Db) (visit : Visit db.notifications.rows) (visitSms : Visit db.smsMessages.rows)
  (outages : Nat → Outage) (deviceId : Option Uuid)

/-- A query that fails counts nothing. -/
def notificationsStats : NotificationsStats where
  total := ((queried (outages 0)
    (db.listNotifications visit deviceId 10000 false none)).map List.length).toOption.getD 0
  unread := (queried (outages 1) (.ok (db.countUnreadNotifications deviceId))).toOption.getD 0
  byPackage :=
    ((queried (outages 2) (.ok (db.countNotificationsByPackage visit deviceId))).toOption.getD
      []).map fun (package, count) ↦ { package, count }

/-- A query that fails ends the dashboard; the registry knows how many devices are online. -/
def dashboard (onlineDevices : Nat) : Except DashboardError DashboardBody := do
  let paired ← (queried (outages 0) (.ok db.countPaired)).mapError (.query "count_paired")
  let notifTotal ← ((queried (outages 1)
    (db.listNotifications visit deviceId 100000 false none)).mapError
      (.query "list_notifications")).map List.length
  let notifUnread ← (queried (outages 2) (.ok (db.countUnreadNotifications deviceId))).mapError
    (.query "count_unread_notifications")
  let smsTotal ← ((queried (outages 3) (db.listSms visitSms deviceId none 100000)).mapError
    (.query "list_sms")).map List.length
  let smsConvos ← ((queried (outages 4) (.ok (db.listSmsConversations visitSms deviceId))).mapError
    (.query "list_sms_conversations")).map List.length
  let calls ← (queried (outages 5) (.ok (dashboardCalls db deviceId))).mapError
    (.query "list_calls")
  return {
    pairedDevices := paired
    onlineDevices
    notifications := { total := notifTotal, unread := notifUnread }
    sms := { total := smsTotal, conversations := smsConvos }
    calls }

end Handlers

/-- Every statement is executed. -/
def noOutages : Nat → Outage := fun _ ↦ none

/-- Both report the same numbers, the unread ones are among the total, and the total is that of all
packages. -/
structure Consistent (stats : NotificationsStats) (counts : NotificationCounts) : Prop where
  sameTotal : stats.total = counts.total
  sameUnread : stats.unread = counts.unread
  unread : stats.unread ≤ stats.total
  packages : stats.total = (stats.byPackage.map (·.count)).sum

/-- The dashboard answers, and what it says agrees with the statistics. -/
def CountersAgree (db : Db) (visit : Visit db.notifications.rows)
    (visitSms : Visit db.smsMessages.rows) (deviceId : Option Uuid) (onlineDevices : Nat) : Prop :=
  ∃ body, dashboard db visit visitSms noOutages deviceId onlineDevices = .ok body ∧
    Consistent (notificationsStats db visit noOutages deviceId) body.notifications

/-! ## What is reported -/

section Reported

variable (db : Db) (visit : Visit db.notifications.rows) (visitSms : Visit db.smsMessages.rows)
  (deviceId : Option Uuid)

theorem total_notificationsStats :
    (notificationsStats db visit noOutages deviceId).total =
      min 10000 (db.notificationsOf deviceId).length := by
  have hlist := listNotifications_eq deviceId false none db visit
    (by decide : (0 : Int64) ≤ 10000)
  have hlength := db.length_listNotifications (by decide) hlist
  rw [notificationsStats, hlist]
  exact hlength

theorem unread_notificationsStats :
    (notificationsStats db visit noOutages deviceId).unread =
      db.countUnreadNotifications deviceId := rfl

theorem packages_notificationsStats :
    ((notificationsStats db visit noOutages deviceId).byPackage.map (·.count)).sum =
      (db.notificationsOf deviceId).length := by
  rw [← db.sum_countNotificationsByPackage visit deviceId]
  simp [notificationsStats, queried, noOutages, Except.mapError, Except.toOption, Function.comp_def]

/-- With every statement executed the dashboard answers. -/
theorem dashboard_eq_ok (onlineDevices : Nat) :
    ∃ body, dashboard db visit visitSms noOutages deviceId onlineDevices = .ok body ∧
      body.notifications = {
        total := min 100000 (db.notificationsOf deviceId).length
        unread := db.countUnreadNotifications deviceId } := by
  have hlist := listNotifications_eq deviceId false none db visit
    (by decide : (0 : Int64) ≤ 100000)
  have hsms := listSms_eq deviceId none db visitSms (by decide : (0 : Int64) ≤ 100000)
  have hlength := db.length_listNotifications (by decide) hlist
  refine ⟨_, by rw [dashboard, hlist, hsms]; rfl, ?_⟩
  exact congrArg (fun total ↦ NotificationCounts.mk total _) hlength

/-- The counters agree as long as the shorter listing is not cut. -/
theorem counters_agree_iff (onlineDevices : Nat) :
    CountersAgree db visit visitSms deviceId onlineDevices ↔
      (db.notificationsOf deviceId).length ≤ 10000 := by
  have htotal := total_notificationsStats db visit deviceId
  have hpackages := packages_notificationsStats db visit deviceId
  obtain ⟨body, hbody, hcounts⟩ := dashboard_eq_ok db visit visitSms deviceId onlineDevices
  constructor
  · intro h
    obtain ⟨other, hother, hconsistent⟩ := h
    have hsum := hconsistent.packages
    rw [htotal, hpackages] at hsum
    omega
  · intro h
    refine ⟨body, hbody, ?_⟩
    rw [hcounts]
    exact {
      sameTotal := by rw [htotal]; dsimp only; omega
      sameUnread := rfl
      unread := by
        rw [htotal, unread_notificationsStats, min_eq_right h]
        exact db.countUnreadNotifications_le deviceId
      packages := by rw [htotal, hpackages, min_eq_right h] }

end Reported

/-- With 10001 notifications the statistics report 10000 of them. -/
theorem large_tables_disagree : ¬ ∀ (db : Db) (visit : Visit db.notifications.rows)
    (visitSms : Visit db.smsMessages.rows) (deviceId : Option Uuid) (onlineDevices : Nat),
    CountersAgree db visit visitSms deviceId onlineDevices := by
  intro h
  have hagree := h (crowded 10001) ⟨_, .rfl⟩ ⟨_, .rfl⟩ none 1
  rw [counters_agree_iff, length_notificationsOf_crowded] at hagree
  omega

end PhoneBridge.MessageCenter
