import MissionControl.Queue.Composition

/-! The Work Queue's order is a total order on records: it does not depend on the order
the records come in, filters only leave records out, and pages only cut it. -/

namespace MissionControl.WorkQueueOrder
open Queue Sorting

/-- Records are told apart by their kind and identifier. -/
def DistinctRecords (facts : List WorkItemFacts) : Prop := (facts.map (·.key)).Nodup

instance (facts : List WorkItemFacts) : Decidable (DistinctRecords facts) := inferInstanceAs (Decidable (List.Nodup _))

def everything : WorkQueueFilter := ⟨[], false⟩

def atPage (request : GetWorkQueue) (offset limit : Nat) : GetWorkQueue :=
  { request with page := { request.page with offset, limit } }

def ofKind (request : GetWorkQueue) (kind : WorkItemKind) : GetWorkQueue :=
  { request with filter := { request.filter with kinds := [kind] } }

def ShowsAll (request : GetWorkQueue) (facts : List WorkItemFacts) : Prop :=
  request.page.offset = 0 ∧ facts.length ≤ request.page.limit

instance (request : GetWorkQueue) (facts : List WorkItemFacts) : Decidable (ShowsAll request facts) :=
  inferInstanceAs (Decidable (_ ∧ _))

structure OrdersRecords (facts : List WorkItemFacts) (ledgerRevision : Nat) : Prop where
  order_free : ∀ request others, facts.Perm others →
    (composeWorkQueue request facts ledgerRevision).body = (composeWorkQueue request others ledgerRevision).body
  filtered_within : ∀ request whole, whole.filter = everything → ShowsAll whole facts →
    (composeWorkQueue request facts ledgerRevision).body.items.Sublist
      (composeWorkQueue whole facts ledgerRevision).body.items
  pages_whole : ∀ request whole limit pages, whole.filter = request.filter → ShowsAll whole facts → 0 < limit →
    (composeWorkQueue request facts ledgerRevision).body.page.total ≤ pages * limit →
    ((List.range pages).flatMap fun page =>
      (composeWorkQueue (atPage request (page * limit) limit) facts ledgerRevision).body.items) =
        (composeWorkQueue whole facts ledgerRevision).body.items
  whole_shown : ∀ whole, ShowsAll whole facts →
    (composeWorkQueue whole facts ledgerRevision).body.items.Perm ((outstanding facts).filter whole.filter.admits) ∧
      ((composeWorkQueue whole facts ledgerRevision).body.items.map (·.key)).Nodup
  counts_total : ∀ request, (composeWorkQueue request facts ledgerRevision).body.countsByKind =
    WorkItemKind.all.map fun kind =>
      ⟨kind, (composeWorkQueue (ofKind request kind) facts ledgerRevision).body.page.total⟩

section
variable {facts others : List WorkItemFacts} {filter : WorkQueueFilter}

theorem outstanding_keys : (outstanding facts).map (·.key) = (facts.filter isOutstanding).map (·.key) := by
  rw [outstanding, List.map_map]
  rfl

theorem outstanding_distinct (distinct : DistinctRecords facts) : ((outstanding facts).map (·.key)).Nodup := by
  rw [outstanding_keys]
  exact distinct.sublist (List.filter_sublist.map _)

theorem separates (distinct : DistinctRecords facts) : Separates WorkQueueItem.compare (outstanding facts) := by
  intro left first right second same
  exact List.inj_on_of_nodup_map (outstanding_distinct distinct) first second (WorkQueueItem.key_of_compare same)

theorem separates_admitted (distinct : DistinctRecords facts) (filter : WorkQueueFilter) :
    Separates WorkQueueItem.compare ((outstanding facts).filter filter.admits) :=
  (separates distinct).mono (List.filter_subset_self _)

theorem admits_everything (item : WorkQueueItem) : everything.admits item = true := rfl

theorem queue_everything : queue everything facts = sortBy WorkQueueItem.compare (outstanding facts) := by
  rw [queue, List.filter_eq_self.mpr fun item _ => admits_everything item]

theorem queue_filter (distinct : DistinctRecords facts) (filter : WorkQueueFilter) :
    queue filter facts = (queue everything facts).filter filter.admits := by
  rw [queue_everything, filter_sortBy (separates distinct)]
  rfl

theorem outstanding_perm (permuted : facts.Perm others) : (outstanding facts).Perm (outstanding others) :=
  (permuted.filter isOutstanding).map toItem

theorem queue_perm (distinct : DistinctRecords facts) (permuted : facts.Perm others) (filter : WorkQueueFilter) :
    queue filter facts = queue filter others :=
  sortBy_eq_of_perm (separates_admitted distinct filter) ((outstanding_perm permuted).filter _)

theorem countsByKind_perm (permuted : facts.Perm others) (filter : WorkQueueFilter) :
    countsByKind filter (outstanding facts) = countsByKind filter (outstanding others) := by
  unfold countsByKind
  apply List.map_congr_left
  intro kind _
  rw [((outstanding_perm permuted).filter _).length_eq]

theorem queue_length_le : (queue filter facts).length ≤ facts.length := by
  rw [queue, length_sortBy, outstanding]
  calc ((facts.filter isOutstanding).map toItem |>.filter filter.admits).length
    _ ≤ ((facts.filter isOutstanding).map toItem).length := List.length_filter_le _ _
    _ = (facts.filter isOutstanding).length := List.length_map _
    _ ≤ facts.length := List.length_filter_le _ _

theorem items_whole {whole : GetWorkQueue} (shows : ShowsAll whole facts) (ledgerRevision : Nat) :
    (composeWorkQueue whole facts ledgerRevision).body.items = queue whole.filter facts := by
  have fits : (queue whole.filter facts).length ≤ whole.page.limit := queue_length_le.trans shows.2
  simp only [composeWorkQueue, shows.1, List.drop_zero]
  exact List.take_of_length_le fits

end

theorem pages_take {α : Type} (items : List α) (limit pages : Nat) :
    ((List.range pages).flatMap fun page => (items.drop (page * limit)).take limit) = items.take (pages * limit) := by
  induction pages with
  | zero => simp
  | succ pages rest =>
    rw [List.range_succ, List.flatMap_append, rest, List.flatMap_singleton, Nat.succ_mul, List.take_add]

theorem kind_count {facts : List WorkItemFacts} (filter : WorkQueueFilter) (kind : WorkItemKind) :
    ((outstanding facts).filter fun item => item.kind = kind && filter.admitsFlag item).length =
      (queue { filter with kinds := [kind] } facts).length := by
  rw [queue, length_sortBy]
  congr 2
  funext item
  have alone : [kind].contains item.kind = decide (item.kind = kind) := by simp [eq_comm]
  simp only [WorkQueueFilter.admits, WorkQueueFilter.admitsFlag, List.isEmpty_cons, Bool.false_or, alone]
  rw [Bool.and_comm]

theorem orders_records (facts : List WorkItemFacts) (ledgerRevision : Nat) (distinct : DistinctRecords facts) :
    OrdersRecords facts ledgerRevision where
  order_free request others permuted := by
    simp only [composeWorkQueue, queue_perm distinct permuted, countsByKind_perm permuted]
  filtered_within request whole unfiltered shows := by
    rw [items_whole shows, unfiltered]
    have page : (composeWorkQueue request facts ledgerRevision).body.items.Sublist (queue request.filter facts) :=
      (List.take_sublist _ _).trans (List.drop_sublist _ _)
    refine page.trans ?_
    rw [queue_filter distinct]
    exact List.filter_sublist
  pages_whole request whole limit pages same shows positive enough := by
    rw [items_whole shows, same]
    have cut := pages_take (queue request.filter facts) limit pages
    rw [List.take_of_length_le enough] at cut
    exact cut
  whole_shown whole shows := by
    rw [items_whole shows]
    have sorted : (queue whole.filter facts).Perm _ := sortBy_perm WorkQueueItem.compare _
    refine ⟨sorted, (sorted.map _).nodup_iff.mpr ?_⟩
    exact (outstanding_distinct distinct).sublist (List.filter_sublist.map _)
  counts_total request := by
    simp only [composeWorkQueue, countsByKind, ofKind]
    apply List.map_congr_left
    intro kind _
    rw [kind_count]

/-! An Action Request without a deadline, and a Risk reviewed tomorrow. -/

namespace Morning

theorem today_lower : -2 ^ 63 ≤ (1790000000000 : Int) := by decide

theorem today_upper : (1790000000000 : Int) < 2 ^ 63 := by decide

def today : UtcTimestamp := ⟨1790000000000, today_lower, today_upper⟩
def tomorrow : UtcTimestamp := ⟨1790086400000, by decide, by decide⟩

def request : WorkItemFacts where
  kind := .actionRequest
  id := "request-1"
  label := "Review the forecast"
  stateLabel := "Open"
  lifecycleLegalIntents := ["prepare_accept_action_request", "decline_action_request", "withdraw_action_request"]
  relevantAt := none
  promisedAt := none
  classification := .internal
  revision := 2
  asOf := today
  freshness := .fresh
  degraded := false
  attention := []

def risk : WorkItemFacts where
  kind := .risk
  id := "risk-1"
  label := "Supplier delay"
  stateLabel := "Open"
  lifecycleLegalIntents := ["prepare_record_risk_occurrence", "prepare_close_risk"]
  relevantAt := some tomorrow
  promisedAt := none
  classification := .internal
  revision := 1
  asOf := today
  freshness := .fresh
  degraded := false
  attention := []

def records : List WorkItemFacts := [request, risk]

def wholeQueue : GetWorkQueue := ⟨today, ⟨0, 25, 0⟩, everything⟩

end Morning

open Morning

theorem orders_records_morning : OrdersRecords records 7 ∧
    (composeWorkQueue wholeQueue records 7).body.items.map (·.key) = [risk.key, request.key] :=
  ⟨orders_records records 7 (by decide), by decide +kernel⟩

end MissionControl.WorkQueueOrder
