import PhoneBridge.Library.Pages
import PhoneBridge.MessageCenter.NotificationCounters
import PhoneBridge.Storage.MessageHistory

/-!
# The pages of messages

`GET /api/v1/sms/conversations` and `GET /api/v1/sms`: the console lists the conversations, and
shows the newest messages of the one that is selected. Both are taken from the messages that are
kept.
-/

namespace PhoneBridge.MessageCenter

open Library Select Storage

/-! ## The handlers -/

structure ListSmsQuery where
  deviceId : Option Uuid
  phoneNumber : Option String
  limit : Option Int64

structure SmsConversation where
  address : String
  lastTimestamp : Int64
  count : Nat

def ListSmsQuery.rows (q : ListSmsQuery) : Int64 := clampedLimit q.limit 50 500

section Handlers

variable (db : Db) (visit : Visit db.smsMessages.rows) (outage : Outage) (q : ListSmsQuery)

def listSms : Except QueryError (List SmsRow) :=
  queried outage (db.listSms visit q.deviceId q.phoneNumber q.rows)

def listSmsConversations : Except QueryError (List SmsConversation) :=
  (queried outage (.ok (db.listSmsConversations visit q.deviceId))).map fun rows ↦
    rows.map fun (address, lastTimestamp, count) ↦ { address, lastTimestamp, count }

end Handlers

/-! ## What they show -/

/-- The messages of a conversation, on one device or on all. -/
def conversation (kept : Set SmsRow) (deviceId : Option Uuid) (address : String) : Set SmsRow :=
  {m | m ∈ kept ∧ wantedSms deviceId (some address) m = true}

/-- One entry for each address with messages: when the newest of them was, and how many there are.
The entry with the newest message comes first. -/
structure Overview (kept : Set SmsRow) (deviceId : Option Uuid) (page : List SmsConversation) :
    Prop where
  mem : ∀ entry, entry ∈ page ↔
    IsGreatest ((·.timestamp) '' conversation kept deviceId entry.address) entry.lastTimestamp ∧
      entry.count = (conversation kept deviceId entry.address).ncard
  nodup : (page.map (·.address)).Nodup
  newest_first : page.Pairwise fun a b ↦ b.lastTimestamp ≤ a.lastTimestamp

section Pages

variable {db : Db} {visit : Visit db.smsMessages.rows} {deviceId : Option Uuid}

theorem ListSmsQuery.rows_range (q : ListSmsQuery) : 1 ≤ q.rows ∧ q.rows ≤ 500 :=
  clampedLimit_range (by decide)

theorem nodup_smsMessages (db : Db) : db.smsMessages.rows.Nodup :=
  List.Nodup.of_map _ db.smsMessages.nodup

/-- The rows of an address that are grouped. -/
def group (visit : Visit db.smsMessages.rows) (deviceId : Option Uuid) (address : String) :
    List SmsRow :=
  (visit.val.filter fun row ↦ deviceId.all (row.deviceId = ·)).filter (·.phoneNumber = address)

theorem mem_group {address : String} {m : SmsRow} : m ∈ group visit deviceId address ↔
    m ∈ conversation {m | m ∈ db.smsMessages.rows} deviceId address := by
  rw [group, List.mem_filter, List.mem_filter, visit.property.mem_iff]
  simp [conversation, wantedSms, and_assoc]

theorem conversation_eq_group (visit : Visit db.smsMessages.rows) (address : String) :
    conversation {m | m ∈ db.smsMessages.rows} deviceId address =
      {m | m ∈ group visit deviceId address} :=
  Set.ext fun _ ↦ mem_group.symm

theorem ncard_conversation (visit : Visit db.smsMessages.rows) (address : String) :
    (conversation {m | m ∈ db.smsMessages.rows} deviceId address).ncard =
      (group visit deviceId address).length := by
  rw [conversation_eq_group visit]
  exact ncard_mem_eq_length
    (((visit.property.nodup_iff.mpr (nodup_smsMessages db)).filter _).filter _)

theorem isGreatest_conversation (visit : Visit db.smsMessages.rows) {address : String}
    {last : Int64} :
    IsGreatest ((·.timestamp) '' conversation {m | m ∈ db.smsMessages.rows} deviceId address)
      last ↔ ((group visit deviceId address).map (·.timestamp)).max? = some last := by
  rw [max?_eq_some_iff, conversation_eq_group visit]
  simp only [List.mem_map]
  rfl

/-- The entries that are grouped, before they are sorted. -/
theorem mem_listSmsConversations (visit : Visit db.smsMessages.rows) {address : String}
    {last : Int64} {count : Nat} :
    (address, last, count) ∈ db.listSmsConversations visit deviceId ↔
      IsGreatest ((·.timestamp) '' conversation {m | m ∈ db.smsMessages.rows} deviceId address)
        last ∧ count = (conversation {m | m ∈ db.smsMessages.rows} deviceId address).ncard := by
  rw [isGreatest_conversation visit, ncard_conversation visit,
    Db.listSmsConversations, List.mem_mergeSort, groupBy, List.map_map, List.mem_map]
  have haddress : address ∈ ((visit.val.filter fun row ↦ deviceId.all (row.deviceId = ·)).map
      (·.phoneNumber)).dedup ↔ group visit deviceId address ≠ [] := by
    rw [List.mem_dedup, List.mem_map, ← List.length_pos_iff, List.length_pos_iff_exists_mem]
    simp only [group, List.mem_filter, decide_eq_true_eq]
  have hsome (hgroup : group visit deviceId address ≠ []) :
      ((group visit deviceId address).map (·.timestamp)).max? ≠ none := by
    simpa using hgroup
  constructor
  · rintro ⟨k, hk, heq⟩
    cases heq
    exact ⟨(Option.getD_of_ne_none (hsome (haddress.mp hk)) 0).symm, rfl⟩
  · rintro ⟨hlast, rfl⟩
    have hgroup : group visit deviceId address ≠ [] := by
      intro hnil
      rw [hnil] at hlast
      cases hlast
    refine ⟨address, haddress.mpr hgroup, ?_⟩
    change (address, ((group visit deviceId address).map (·.timestamp)).max?.getD 0, _) = _
    rw [hlast]
    rfl

theorem sorted_listSmsConversations :
    (db.listSmsConversations visit deviceId).Pairwise fun a b ↦ b.2.1 ≤ a.2.1 := by
  have hsorted : (db.listSmsConversations visit deviceId).Pairwise
      fun a b ↦ newestFirst (fun row : String × Int64 × Nat ↦ row.2.1) a b = true :=
    List.pairwise_mergeSort (fun _ _ _ ↦ newestFirst_trans) newestFirst_total _
  exact hsorted.imp fun h ↦ of_decide_eq_true h

theorem overview_listSmsConversations (visit : Visit db.smsMessages.rows) (q : ListSmsQuery) :
    ∃ page, listSmsConversations db visit none q = .ok page ∧
      Overview {m | m ∈ db.smsMessages.rows} q.deviceId page := by
  refine ⟨_, rfl, {
    mem := fun entry ↦ ?_
    nodup := ?_
    newest_first := ?_ }⟩
  · rw [← mem_listSmsConversations visit, List.mem_map]
    constructor
    · rintro ⟨row, hrow, rfl⟩
      exact hrow
    · exact fun h ↦ ⟨_, h, rfl⟩
  · rw [List.map_map]
    refine ((List.mergeSort_perm _ _).map _).nodup_iff.mpr ?_
    rw [groupBy, List.map_map, List.map_map]
    exact (List.map_id' _).symm ▸ List.nodup_dedup _
  · exact List.pairwise_map.mpr sorted_listSmsConversations

theorem isPage_listSms (visit : Visit db.smsMessages.rows) (q : ListSmsQuery) :
    ∃ page, listSms db visit none q = .ok page ∧
      IsPage {m | m ∈ db.smsMessages.rows ∧ wantedSms q.deviceId q.phoneNumber m = true}
        (·.timestamp) q.rows.toInt.toNat page := by
  have hlimit : 0 ≤ q.rows := Int64.le_trans (by decide) q.rows_range.1
  refine ⟨_, ?_, (lists_newest visit.property).isPage (nodup_smsMessages db)⟩
  rw [listSms, listSms_eq q.deviceId q.phoneNumber db visit hlimit]
  rfl

end Pages

/-- After any sequence of statements on a new database the overview has the conversations of the
messages that are kept, a page of messages has the newest of them, and the page of a conversation
begins with the message that the overview dates. -/
theorem message_pages_show_history (statements : List Statement) (q : ListSmsQuery) :
    let run := fun (db : Db) (s : Statement) ↦ s.run db
    let db := (Service.perform run Db.empty statements).2
    let kept := {m | Kept (Service.accepted run Db.empty statements) m}
    ∀ visit : Visit db.smsMessages.rows,
      (∃ page, listSms db visit none q = .ok page ∧
        IsPage {m | m ∈ kept ∧ wantedSms q.deviceId q.phoneNumber m = true} (·.timestamp)
          q.rows.toInt.toNat page) ∧
      ∃ overview, listSmsConversations db visit none q = .ok overview ∧
        Overview kept q.deviceId overview ∧
        ∀ entry ∈ overview, ∃ page,
          listSms db visit none { q with phoneNumber := some entry.address } = .ok page ∧
            page.length = min q.rows.toInt.toNat entry.count ∧
            page.head?.map (·.timestamp) = some entry.lastTimestamp := by
  intro run db kept visit
  have hkept : kept = {m | m ∈ db.smsMessages.rows} :=
    Set.ext fun m ↦ (mem_smsMessages_perform statements m).symm
  rw [hkept]
  refine ⟨isPage_listSms visit q, ?_⟩
  obtain ⟨overview, hoverview, hentries⟩ := overview_listSmsConversations visit q
  refine ⟨overview, hoverview, hentries, fun entry hentry ↦ ?_⟩
  obtain ⟨hlast, hcount⟩ := (hentries.mem entry).mp hentry
  obtain ⟨page, hpage, hshown⟩ :=
    isPage_listSms visit { q with phoneNumber := some entry.address }
  have hfinite : (conversation {m | m ∈ db.smsMessages.rows} q.deviceId entry.address).Finite :=
    (List.finite_toSet db.smsMessages.rows).subset fun m hm ↦ hm.1
  have hlimit : 0 < q.rows.toInt.toNat := by
    have hone : (1 : Int64).toInt ≤ q.rows.toInt := Int64.le_iff_toInt_le.mp q.rows_range.1
    exact Int.lt_toNat.mpr (Int.lt_of_lt_of_le (by decide) hone)
  refine ⟨page, hpage, ?_, hshown.head? hlimit hfinite hlast⟩
  rw [hcount]
  exact hshown.length

end PhoneBridge.MessageCenter
