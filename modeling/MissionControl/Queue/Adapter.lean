import MissionControl.Queue.Composition

/-! Flags attached to the records they were raised against, each with the deadline of
its record. -/

namespace MissionControl.Queue

def relevantAtFor (records : List WorkItemFacts) (kind : WorkItemKind) (id : String) : Option UtcTimestamp :=
  match kind with
  | .actionRequest | .action | .risk => (records.find? fun record => record.key = (kind, id)).bind (·.relevantAt)
  | .decisionRequest | .issue => none

def AttentionTarget.key (target : AttentionTarget) : WorkItemKind × String :=
  (WorkItemKind.ofTarget target, canonicalIdOf target)

def attentionFor (flags : List AttentionFlag) (records : List WorkItemFacts) (key : WorkItemKind × String) :
    List RankableAttentionItem :=
  (flags.filter fun flag => flag.target.key = key).map fun flag => ⟨flag, relevantAtFor records key.1 key.2⟩

def attach (input : AttentionInputs) (records : List WorkItemFacts) : List WorkItemFacts :=
  records.map fun record =>
    { record with attention := attentionFor (deriveAttention input).flags records record.key }

end MissionControl.Queue
