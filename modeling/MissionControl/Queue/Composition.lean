import MissionControl.Queue.Ranking

/-! The Work Queue: which records it shows, in which order, and which of them a page
holds. A record is placed by its most severe flag, below all flagged ones without any. -/

namespace MissionControl.Queue
open Sorting

inductive WorkItemKind where
  | actionRequest | action | decisionRequest | risk | issue
  deriving DecidableEq

namespace WorkItemKind

def all : List WorkItemKind := [.actionRequest, .action, .decisionRequest, .risk, .issue]

def ofTarget : AttentionTarget → WorkItemKind
  | .actionRequest _ => .actionRequest
  | .action _ => .action
  | .decisionRequest _ => .decisionRequest
  | .risk _ => .risk
  | .issue _ => .issue

def asStr : WorkItemKind → String
  | .actionRequest => "action_request"
  | .action => "action"
  | .decisionRequest => "decision_request"
  | .risk => "risk"
  | .issue => "issue"

theorem asStr_injective : Function.Injective asStr := by
  intro left right same
  cases left <;> cases right <;> simp_all [asStr]

end WorkItemKind

inductive WorkItemPlacement where
  | flagged (tier : AttentionTier)
  | unflagged
  deriving DecidableEq

namespace WorkItemPlacement

def compare : WorkItemPlacement → WorkItemPlacement → Ordering
  | .flagged left, .flagged right => left.compare right
  | .flagged _, .unflagged => .lt
  | .unflagged, .flagged _ => .gt
  | .unflagged, .unflagged => .eq

def why : WorkItemPlacement → String
  | .flagged tier => tier.why
  | .unflagged => "nothing has flagged it, so it sorts below flagged work"

instance : Std.TransCmp compare where
  eq_swap {left right} := by
    cases left <;> cases right <;> first | rfl | exact @Std.OrientedCmp.eq_swap _ AttentionTier.compare _ _ _
  isLE_trans {left middle right} := by
    cases left <;> cases middle <;> cases right <;> simp only [compare] <;>
      first | exact @Std.TransCmp.isLE_trans _ AttentionTier.compare _ _ _ _ | simp

end WorkItemPlacement

structure WorkItemFacts where
  kind : WorkItemKind
  id : String
  label : String
  stateLabel : String
  lifecycleLegalIntents : List String
  relevantAt : Option UtcTimestamp
  promisedAt : Option UtcTimestamp
  classification : DataClassification
  revision : Nat
  asOf : UtcTimestamp
  freshness : Freshness
  degraded : Bool
  attention : List RankableAttentionItem

structure WorkQueueItem where
  kind : WorkItemKind
  id : String
  label : String
  stateLabel : String
  lifecycleLegalIntents : List String
  relevantAt : Option UtcTimestamp
  promisedAt : Option UtcTimestamp
  classification : DataClassification
  revision : Nat
  asOf : UtcTimestamp
  freshness : Freshness
  degraded : Bool
  attention : List RankedAttentionItem
  placement : WorkItemPlacement
  placementRationale : String

def WorkItemFacts.key (facts : WorkItemFacts) : WorkItemKind × String := (facts.kind, facts.id)

namespace WorkQueueItem

def key (item : WorkQueueItem) : WorkItemKind × String := (item.kind, item.id)

/-- The time of the flag that placed the item, or else the record's own. -/
def placingTimestamp (item : WorkQueueItem) : Option UtcTimestamp :=
  match item.attention.head? with
  | some ranked => ranked.relevantAt
  | none => item.relevantAt

/-- The identifier is compared with its kind, so that no two records tie. -/
def compare (left right : WorkQueueItem) : Ordering :=
  (left.placement.compare right.placement).then <|
    (compareTimes left.placingTimestamp right.placingTimestamp).then <|
      (Ord.compare left.kind.asStr right.kind.asStr).then (Ord.compare left.id right.id)

instance : Std.TransCmp compare :=
  inferInstanceAs (Std.TransCmp (compareLex (comparing WorkItemPlacement.compare WorkQueueItem.placement)
    (compareLex (comparing compareTimes placingTimestamp)
      (compareLex (compareOn fun item : WorkQueueItem => item.kind.asStr)
        (compareOn fun item : WorkQueueItem => item.id)))))

theorem key_of_compare {left right : WorkQueueItem} (same : left.compare right = .eq) : left.key = right.key := by
  simp only [compare, Ordering.then_eq_eq] at same
  have kinds : left.kind = right.kind := WorkItemKind.asStr_injective (Std.LawfulEqOrd.eq_of_compare same.2.2.1)
  have ids : left.id = right.id := Std.LawfulEqOrd.eq_of_compare same.2.2.2
  rw [key, key, kinds, ids]

end WorkQueueItem

structure WorkQueueFilter where
  /-- Empty means every kind. -/
  kinds : List WorkItemKind
  onlyFlagged : Bool

namespace WorkQueueFilter

def admitsFlag (filter : WorkQueueFilter) (item : WorkQueueItem) : Bool :=
  !filter.onlyFlagged || !item.attention.isEmpty

def admits (filter : WorkQueueFilter) (item : WorkQueueItem) : Bool :=
  filter.admitsFlag item && (filter.kinds.isEmpty || filter.kinds.contains item.kind)

end WorkQueueFilter

structure PageState where
  offset : Nat
  limit : Nat
  total : Nat

structure GetWorkQueue where
  asOf : UtcTimestamp
  page : PageState
  filter : WorkQueueFilter

structure KindCount where
  kind : WorkItemKind
  count : Nat

structure WorkQueueBody where
  items : List WorkQueueItem
  countsByKind : List KindCount
  page : PageState

inductive RouteState where
  | empty | success

structure CompositionResult (Body : Type) where
  state : RouteState
  asOf : UtcTimestamp
  ledgerRevision : Nat
  body : Body

def isOutstanding (facts : WorkItemFacts) : Bool := !facts.lifecycleLegalIntents.isEmpty

def toItem (facts : WorkItemFacts) : WorkQueueItem :=
  let attention := rankAttention facts.attention
  let placement := match attention.head? with
    | some ranked => WorkItemPlacement.flagged ranked.tier
    | none => .unflagged
  { kind := facts.kind
    id := facts.id
    label := facts.label
    stateLabel := facts.stateLabel
    lifecycleLegalIntents := facts.lifecycleLegalIntents
    relevantAt := facts.relevantAt
    promisedAt := facts.promisedAt
    classification := facts.classification
    revision := facts.revision
    asOf := facts.asOf
    freshness := facts.freshness
    degraded := facts.degraded
    attention
    placement
    placementRationale := placement.why }

def outstanding (facts : List WorkItemFacts) : List WorkQueueItem := (facts.filter isOutstanding).map toItem

def countsByKind (filter : WorkQueueFilter) (items : List WorkQueueItem) : List KindCount :=
  WorkItemKind.all.map fun kind =>
    ⟨kind, (items.filter fun item => item.kind = kind && filter.admitsFlag item).length⟩

def queue (filter : WorkQueueFilter) (facts : List WorkItemFacts) : List WorkQueueItem :=
  sortBy WorkQueueItem.compare ((outstanding facts).filter filter.admits)

def composeWorkQueue (request : GetWorkQueue) (facts : List WorkItemFacts) (ledgerRevision : Nat) :
    CompositionResult WorkQueueBody :=
  let items := queue request.filter facts
  let paged := (items.drop request.page.offset).take request.page.limit
  { state := if paged.isEmpty then .empty else .success
    asOf := request.asOf
    ledgerRevision
    body :=
      { items := paged
        countsByKind := countsByKind request.filter (outstanding facts)
        page := { offset := request.page.offset, limit := request.page.limit, total := items.length } } }

end MissionControl.Queue
