import PhoneBridge.Library.Select
import PhoneBridge.Storage.Pool

/-!
# The listings

`list_notifications` and `list_sms` of `pool.rs`: one of several texts is selected by the filters
that are given, and the values are bound in a match of its own. The parameters of each text line up
with the values that are bound to it, so both are the same generic listing.
-/

namespace PhoneBridge.Storage

open Library Select

/-- The order in which the database visits the rows of a table. -/
abbrev Visit {ρ : Type} (rows : List ρ) := { visit : List ρ // visit.Perm rows }

/-- An identifier is bound and stored as its 16 bytes. -/
def uuidValue (id : Uuid) : SqlValue := .blob id.asBytes

/-! ## notifications -/

/-- The table `notifications`. -/
def notificationRelation : Relation NotificationRow where
  name := "notifications"
  columns := [("id", .text), ("device_id", .blob), ("package_name", .text), ("app_name", .text),
    ("title", .text), ("content", .text), ("posted_at", .integer), ("is_sensitive", .integer),
    ("category", .text), ("read", .integer)]
  value row
    | "id" => .text row.id
    | "device_id" => uuidValue row.deviceId
    | "package_name" => .text row.packageName
    | "app_name" => .ofOption .text row.appName
    | "title" => .text row.title
    | "content" => .text row.content
    | "posted_at" => .integer row.postedAt
    | "is_sensitive" => .ofBool row.isSensitive
    | "category" => .ofOption .text row.category
    | "read" => .ofBool row.read
    | _ => .null

/-- The text that `list_notifications` selects. -/
def notificationsSql (onlyUnread hasDevice hasPackage : Bool) : String :=
  if onlyUnread && hasDevice && hasPackage then
    "SELECT id, device_id, package_name, app_name, title, content, posted_at, is_sensitive, " ++
      "category, read FROM notifications WHERE device_id = ?1 AND read = 0 AND package_name = ?2 " ++
      "ORDER BY posted_at DESC LIMIT ?3"
  else if onlyUnread && hasDevice then
    "SELECT id, device_id, package_name, app_name, title, content, posted_at, is_sensitive, " ++
      "category, read FROM notifications WHERE device_id = ?1 AND read = 0 " ++
      "ORDER BY posted_at DESC LIMIT ?2"
  else if onlyUnread && hasPackage then
    "SELECT id, device_id, package_name, app_name, title, content, posted_at, is_sensitive, " ++
      "category, read FROM notifications WHERE read = 0 AND package_name = ?1 " ++
      "ORDER BY posted_at DESC LIMIT ?2"
  else if hasDevice && hasPackage then
    "SELECT id, device_id, package_name, app_name, title, content, posted_at, is_sensitive, " ++
      "category, read FROM notifications WHERE device_id = ?1 AND package_name = ?2 " ++
      "ORDER BY posted_at DESC LIMIT ?3"
  else if hasDevice then
    "SELECT id, device_id, package_name, app_name, title, content, posted_at, is_sensitive, " ++
      "category, read FROM notifications WHERE device_id = ?1 " ++
      "ORDER BY posted_at DESC LIMIT ?2"
  else if hasPackage then
    "SELECT id, device_id, package_name, app_name, title, content, posted_at, is_sensitive, " ++
      "category, read FROM notifications WHERE package_name = ?1 " ++
      "ORDER BY posted_at DESC LIMIT ?2"
  else if onlyUnread then
    "SELECT id, device_id, package_name, app_name, title, content, posted_at, is_sensitive, " ++
      "category, read FROM notifications WHERE read = 0 " ++
      "ORDER BY posted_at DESC LIMIT ?1"
  else
    "SELECT id, device_id, package_name, app_name, title, content, posted_at, is_sensitive, " ++
      "category, read FROM notifications " ++
      "ORDER BY posted_at DESC LIMIT ?1"

/-- The values that `list_notifications` binds. -/
def notificationsBound (onlyUnread : Bool) (deviceId : Option Uuid) (packageFilter : Option String)
    (limit : Int64) : List SqlValue :=
  match onlyUnread, deviceId, packageFilter with
  | true, some d, some p => [uuidValue d, .text p, .integer limit]
  | true, some d, none => [uuidValue d, .integer limit]
  | true, none, some p => [.text p, .integer limit]
  | false, some d, some p => [uuidValue d, .text p, .integer limit]
  | false, some d, none => [uuidValue d, .integer limit]
  | false, none, some p => [.text p, .integer limit]
  | true, none, none => [.integer limit]
  | false, none, none => [.integer limit]

/-- List the most recent notifications. -/
def Db.listNotifications (db : Db) (visit : Visit db.notifications.rows) (deviceId : Option Uuid)
    (limit : Int64) (onlyUnread : Bool) (packageFilter : Option String) :
    Except SelectError (List NotificationRow) :=
  fetchAll notificationRelation (notificationsBound onlyUnread deviceId packageFilter limit) visit
    (notificationsSql onlyUnread deviceId.isSome packageFilter.isSome)

/-- Does a notification satisfy all supplied filters? -/
def wantedNotification (deviceId : Option Uuid) (onlyUnread : Bool) (packageFilter : Option String)
    (row : NotificationRow) : Bool :=
  deviceId.all (row.deviceId = ·) && (!onlyUnread || !row.read) &&
    packageFilter.all (row.packageName = ·)

/-! ## sms_messages -/

/-- The table `sms_messages`. -/
def smsRelation : Relation SmsRow where
  name := "sms_messages"
  columns := [("id", .text), ("device_id", .blob), ("sim_slot", .integer), ("phone_number", .text),
    ("body", .text), ("direction", .text), ("timestamp", .integer)]
  value row
    | "id" => .text row.id
    | "device_id" => uuidValue row.deviceId
    | "sim_slot" => .ofOption (fun slot : UInt8 ↦ .integer slot.toUInt64.toInt64) row.simSlot
    | "phone_number" => .text row.phoneNumber
    | "body" => .text row.body
    | "direction" => .text row.direction
    | "timestamp" => .integer row.timestamp
    | _ => .null

/-- The text that `list_sms` selects. -/
def smsSql : Bool → Bool → String
  | true, true =>
    "SELECT id, device_id, sim_slot, phone_number, body, direction, timestamp " ++
      "FROM sms_messages WHERE device_id = ?1 AND phone_number = ?2 " ++
      "ORDER BY timestamp DESC LIMIT ?3"
  | true, false =>
    "SELECT id, device_id, sim_slot, phone_number, body, direction, timestamp " ++
      "FROM sms_messages WHERE device_id = ?1 " ++
      "ORDER BY timestamp DESC LIMIT ?2"
  | false, true =>
    "SELECT id, device_id, sim_slot, phone_number, body, direction, timestamp " ++
      "FROM sms_messages WHERE phone_number = ?1 " ++
      "ORDER BY timestamp DESC LIMIT ?2"
  | false, false =>
    "SELECT id, device_id, sim_slot, phone_number, body, direction, timestamp " ++
      "FROM sms_messages " ++
      "ORDER BY timestamp DESC LIMIT ?1"

/-- The values that `list_sms` binds. -/
def smsBound (deviceId : Option Uuid) (phoneNumber : Option String) (limit : Int64) :
    List SqlValue :=
  match deviceId, phoneNumber with
  | some d, some p => [uuidValue d, .text p, .integer limit]
  | some d, none => [uuidValue d, .integer limit]
  | none, some p => [.text p, .integer limit]
  | none, none => [.integer limit]

/-- List SMS, newest first. -/
def Db.listSms (db : Db) (visit : Visit db.smsMessages.rows) (deviceId : Option Uuid)
    (phoneNumber : Option String) (limit : Int64) : Except SelectError (List SmsRow) :=
  fetchAll smsRelation (smsBound deviceId phoneNumber limit) visit
    (smsSql deviceId.isSome phoneNumber.isSome)

/-- Does a message satisfy all supplied filters? -/
def wantedSms (deviceId : Option Uuid) (phoneNumber : Option String) (row : SmsRow) : Bool :=
  deviceId.all (row.deviceId = ·) && phoneNumber.all (row.phoneNumber = ·)

/-! ## The texts -/

/-- The statement with a condition for each filter, numbered in the order of the text. -/
def notificationsQuery (onlyUnread hasDevice hasPackage : Bool) : Query where
  columns := notificationRelation.columns.map Prod.fst
  table := "notifications"
  conditions :=
    (if hasDevice then [("device_id", .param 1)] else []) ++
    (if onlyUnread then [("read", .literal 0)] else []) ++
    (if hasPackage then [("package_name", .param (if hasDevice then 2 else 1))] else [])
  orderBy := "posted_at"
  limit := .param (hasDevice.toNat + hasPackage.toNat + 1)

def smsQuery (hasDevice hasNumber : Bool) : Query where
  columns := smsRelation.columns.map Prod.fst
  table := "sms_messages"
  conditions :=
    (if hasDevice then [("device_id", .param 1)] else []) ++
    (if hasNumber then [("phone_number", .param (if hasDevice then 2 else 1))] else [])
  orderBy := "timestamp"
  limit := .param (hasDevice.toNat + hasNumber.toNat + 1)

set_option maxRecDepth 4000 in
theorem parse_notificationsSql (onlyUnread hasDevice hasPackage : Bool) :
    parse (notificationsSql onlyUnread hasDevice hasPackage) =
      some (notificationsQuery onlyUnread hasDevice hasPackage) := by
  cases onlyUnread <;> cases hasDevice <;> cases hasPackage <;>
    exact (parse_append _ _ _).trans (by decide +kernel)

set_option maxRecDepth 4000 in
theorem parse_smsSql (hasDevice hasNumber : Bool) :
    parse (smsSql hasDevice hasNumber) = some (smsQuery hasDevice hasNumber) := by
  cases hasDevice <;> cases hasNumber <;> exact (parse_append _ _ _).trans (by decide +kernel)

/-! ## The values line up with the texts -/

theorem known_notifications (onlyUnread hasDevice hasPackage : Bool) :
    let q := notificationsQuery onlyUnread hasDevice hasPackage
    ∀ column ∈ q.orderBy :: q.columns ++ q.conditions.map Prod.fst,
      column ∈ notificationRelation.columns.map Prod.fst := by
  cases onlyUnread <;> cases hasDevice <;> cases hasPackage <;> decide

theorem known_sms (hasDevice hasNumber : Bool) :
    let q := smsQuery hasDevice hasNumber
    ∀ column ∈ q.orderBy :: q.columns ++ q.conditions.map Prod.fst,
      column ∈ smsRelation.columns.map Prod.fst := by
  cases hasDevice <;> cases hasNumber <;> decide

theorem equals_uuidValue (u v : Uuid) : (uuidValue u).equals (uuidValue v) = decide (u = v) := by
  simp [uuidValue, Uuid.asBytes_inj]

section Listings

variable (deviceId : Option Uuid) (limit : Int64)

section Notifications

variable (onlyUnread : Bool) (packageFilter : Option String)

theorem binds_notifications :
    (notificationsQuery onlyUnread deviceId.isSome packageFilter.isSome).Binds notificationRelation
      (notificationsBound onlyUnread deviceId packageFilter limit) where
  numbered := by cases onlyUnread <;> cases deviceId <;> cases packageFilter <;> rfl
  table := rfl
  known := known_notifications _ _ _
  fetched := fun _ h ↦ h
  comparable := by
    cases onlyUnread <;> cases deviceId <;> cases packageFilter <;>
      simp [Query.Comparable, notificationsQuery, notificationsBound, notificationRelation,
        Operand.value, SqlValue.HasClass, uuidValue]
  limit := by cases onlyUnread <;> cases deviceId <;> cases packageFilter <;> exact ⟨limit, rfl⟩

theorem limit_notifications :
    (notificationsQuery onlyUnread deviceId.isSome packageFilter.isSome).limit.value
      (notificationsBound onlyUnread deviceId packageFilter limit) = .integer limit := by
  cases onlyUnread <;> cases deviceId <;> cases packageFilter <;> rfl

theorem accepts_notifications (row : NotificationRow) :
    (notificationsQuery onlyUnread deviceId.isSome packageFilter.isSome).accepts
      notificationRelation (notificationsBound onlyUnread deviceId packageFilter limit) row =
      wantedNotification deviceId onlyUnread packageFilter row := by
  cases onlyUnread <;> cases deviceId <;> cases packageFilter <;>
    simp [Query.accepts, notificationsQuery, notificationsBound, notificationRelation,
      Operand.value, equals_uuidValue, wantedNotification, Bool.and_assoc]

variable {limit} in
theorem listNotifications_eq (db : Db) (visit : Visit db.notifications.rows) (hlimit : 0 ≤ limit) :
    db.listNotifications visit deviceId limit onlyUnread packageFilter =
      .ok (newest (wantedNotification deviceId onlyUnread packageFilter) (·.postedAt)
        limit.toInt.toNat visit) :=
  fetchAll_newest (parse_notificationsSql _ _ _)
    (binds_notifications deviceId limit onlyUnread packageFilter)
    (limit_notifications deviceId limit onlyUnread packageFilter) hlimit
    (accepts_notifications deviceId limit onlyUnread packageFilter) (fun _ ↦ rfl) visit

end Notifications

section Sms

variable (phoneNumber : Option String)

theorem binds_sms :
    (smsQuery deviceId.isSome phoneNumber.isSome).Binds smsRelation
      (smsBound deviceId phoneNumber limit) where
  numbered := by cases deviceId <;> cases phoneNumber <;> rfl
  table := rfl
  known := known_sms _ _
  fetched := fun _ h ↦ h
  comparable := by
    cases deviceId <;> cases phoneNumber <;>
      simp [Query.Comparable, smsQuery, smsBound, smsRelation, Operand.value, SqlValue.HasClass,
        uuidValue]
  limit := by cases deviceId <;> cases phoneNumber <;> exact ⟨limit, rfl⟩

theorem limit_sms :
    (smsQuery deviceId.isSome phoneNumber.isSome).limit.value
      (smsBound deviceId phoneNumber limit) = .integer limit := by
  cases deviceId <;> cases phoneNumber <;> rfl

theorem accepts_sms (row : SmsRow) :
    (smsQuery deviceId.isSome phoneNumber.isSome).accepts smsRelation
      (smsBound deviceId phoneNumber limit) row = wantedSms deviceId phoneNumber row := by
  cases deviceId <;> cases phoneNumber <;>
    simp [Query.accepts, smsQuery, smsBound, smsRelation, Operand.value, equals_uuidValue,
      wantedSms]

variable {limit} in
theorem listSms_eq (db : Db) (visit : Visit db.smsMessages.rows) (hlimit : 0 ≤ limit) :
    db.listSms visit deviceId phoneNumber limit =
      .ok (newest (wantedSms deviceId phoneNumber) (·.timestamp) limit.toInt.toNat visit) :=
  fetchAll_newest (parse_smsSql _ _) (binds_sms deviceId limit phoneNumber)
    (limit_sms deviceId limit phoneNumber) hlimit (accepts_sms deviceId limit phoneNumber)
    (fun _ ↦ rfl) visit

end Sms

end Listings

/-- Both listings are the generic one: the filters that are supplied, the newest rows first, the
first `limit` of them. -/
theorem listings_meet_specification (db : Db) (visit : Visit db.notifications.rows)
    (visitSms : Visit db.smsMessages.rows) (deviceId : Option Uuid) (onlyUnread : Bool)
    (packageFilter phoneNumber : Option String) (limit : Int64) (hlimit : 0 ≤ limit) :
    IsListing notificationRelation
      (notificationsSql onlyUnread deviceId.isSome packageFilter.isSome)
      (notificationsBound onlyUnread deviceId packageFilter limit) db.notifications.rows visit
      (wantedNotification deviceId onlyUnread packageFilter) (·.postedAt) limit.toInt.toNat
      (db.listNotifications visit deviceId limit onlyUnread packageFilter) ∧
    IsListing smsRelation (smsSql deviceId.isSome phoneNumber.isSome)
      (smsBound deviceId phoneNumber limit) db.smsMessages.rows visitSms
      (wantedSms deviceId phoneNumber) (·.timestamp) limit.toInt.toNat
      (db.listSms visitSms deviceId phoneNumber limit) := by
  constructor
  · exact {
      binds := ⟨_, parse_notificationsSql _ _ _, binds_notifications _ _ _ _⟩
      generic := listNotifications_eq deviceId onlyUnread packageFilter db visit hlimit
      lists := lists_newest visit.property }
  · exact {
      binds := ⟨_, parse_smsSql _ _, binds_sms _ _ _⟩
      generic := listSms_eq deviceId phoneNumber db visitSms hlimit
      lists := lists_newest visitSms.property }

/-! ## Two phones -/

def sampleDevice (id : Uuid) : DeviceRow where
  id := 0
  deviceId := id
  name := "Phone"
  publicKey := ""
  lastSeen := 1
  paired := false
  hardwareId := none

def sampleNotice (id : String) (deviceId : Uuid) (packageName : String) (postedAt : Int64)
    (read : Bool) : NotificationRow where
  id
  deviceId
  packageName
  appName := none
  title := "Hello"
  content := "World"
  postedAt
  isSensitive := false
  category := none
  read

def sampleMessage (id : String) (deviceId : Uuid) (timestamp : Int64) : SmsRow where
  id
  deviceId
  simSlot := none
  phoneNumber := "+493012345"
  body := "Hello"
  direction := "incoming"
  timestamp

/-- Three notifications that a filter leaves out, three that only the order and the limit tell
apart, and messages of both phones. -/
def sampleStored : Except DbError Db := do
  let db ← Db.empty.upsertDevice (sampleDevice ⟨1⟩)
  let db ← db.upsertDevice (sampleDevice ⟨2⟩)
  let db ← db.insertNotification (sampleNotice "a" ⟨1⟩ "org.example.chat" 1 false)
  let db ← db.insertNotification (sampleNotice "b" ⟨1⟩ "org.example.chat" 4 false)
  let db ← db.insertNotification (sampleNotice "c" ⟨1⟩ "org.example.chat" 3 false)
  let db ← db.insertNotification (sampleNotice "d" ⟨1⟩ "org.example.chat" 5 true)
  let db ← db.insertNotification (sampleNotice "e" ⟨1⟩ "org.example.mail" 6 false)
  let db ← db.insertNotification (sampleNotice "f" ⟨2⟩ "org.example.chat" 7 false)
  let db ← db.insertSms (sampleMessage "g" ⟨1⟩ 1)
  let db ← db.insertSms (sampleMessage "h" ⟨1⟩ 3)
  db.insertSms (sampleMessage "i" ⟨2⟩ 4)

theorem rows_sampleStored : ∃ db, sampleStored = .ok db ∧
    db.notifications.rows = [sampleNotice "a" ⟨1⟩ "org.example.chat" 1 false,
      sampleNotice "b" ⟨1⟩ "org.example.chat" 4 false,
      sampleNotice "c" ⟨1⟩ "org.example.chat" 3 false,
      sampleNotice "d" ⟨1⟩ "org.example.chat" 5 true,
      sampleNotice "e" ⟨1⟩ "org.example.mail" 6 false,
      sampleNotice "f" ⟨2⟩ "org.example.chat" 7 false] ∧
    db.smsMessages.rows = [sampleMessage "g" ⟨1⟩ 1, sampleMessage "h" ⟨1⟩ 3,
      sampleMessage "i" ⟨2⟩ 4] :=
  ⟨_, rfl, rfl, rfl⟩

/-- The two newest unread notifications of one app, and the newest message of the phone. -/
theorem listings_of_two_phones : ∃ db, sampleStored = .ok db ∧
    (IsListing notificationRelation (notificationsSql true true true)
      (notificationsBound true (some ⟨1⟩) (some "org.example.chat") 2) db.notifications.rows
      db.notifications.rows (wantedNotification (some ⟨1⟩) true (some "org.example.chat"))
      (·.postedAt) 2
      (db.listNotifications ⟨_, .refl _⟩ (some ⟨1⟩) 2 true (some "org.example.chat")) ∧
    IsListing smsRelation (smsSql true false) (smsBound (some ⟨1⟩) none 2) db.smsMessages.rows
      db.smsMessages.rows (wantedSms (some ⟨1⟩) none) (·.timestamp) 2
      (db.listSms ⟨_, .refl _⟩ (some ⟨1⟩) none 2)) ∧
    newest (wantedNotification (some ⟨1⟩) true (some "org.example.chat")) (·.postedAt) 2
      db.notifications.rows = [sampleNotice "b" ⟨1⟩ "org.example.chat" 4 false,
        sampleNotice "c" ⟨1⟩ "org.example.chat" 3 false] ∧
    newest (wantedSms (some ⟨1⟩) none) (·.timestamp) 2 db.smsMessages.rows =
      [sampleMessage "h" ⟨1⟩ 3, sampleMessage "g" ⟨1⟩ 1] := by
  obtain ⟨db, hdb, hnotifications, hsms⟩ := rows_sampleStored
  refine ⟨db, hdb, ?_, ?_, ?_⟩
  · exact listings_meet_specification db ⟨_, .refl _⟩ ⟨_, .refl _⟩ (some ⟨1⟩) true
      (some "org.example.chat") none 2 (by decide)
  · simp [hnotifications, newest, wantedNotification, sampleNotice, newestFirst, List.mergeSort,
      List.MergeSort.Internal.splitInTwo]
  · simp [hsms, newest, wantedSms, sampleMessage, newestFirst, List.mergeSort,
      List.MergeSort.Internal.splitInTwo]

end PhoneBridge.Storage
