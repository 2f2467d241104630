import Mathlib.Algebra.Ring.Int.Defs
import Mathlib.Data.List.MinMax
import Mathlib.Data.List.Sort
import Mathlib.Order.Defs.Unbundled
import Molejo.Lib.Transition

/-!
# The events of an environment

`events` lists the events of a namespace twice, once in each of the two groups of the API, keeps
what is about an object of the target and not too old, and returns the newest of it. The API server
shows every event in both groups, and nothing removes the second copy: an answer with room for two
has the newest event twice, and only half of what was asked for (`not_exactEvents`).

The sort is stable, so the answer begins with the newest events of the one group, in the order in
which they are listed, and goes on with the same events of the other. So it is exact if and only if
it ends before that: as many events as were asked for are equally new, and newer than all others
(`exactEvents_iff`). Asked for one event, the Agent always answers exactly. All this is said of
owned events that are shown – the Agent asks for the first 500 events of each group and for no
more – and whose times can be counted in nanoseconds; of other events it needs nothing.
-/

namespace Molejo.Query

open Transaction

/-- An event, as either group shows it. A zero time is none. Texts are the bytes of a text. -/
structure Event where
  uid : String
  regarding : String
  eventTime : Option ℤ
  lastTimestamp : Option ℤ
  type : List UInt8
  reason : List UInt8
  message : List UInt8
deriving DecidableEq

/-- `RuntimeEvent`. -/
structure RuntimeEvent where
  timestampUnixNano : Int64
  type : List UInt8
  reason : List UInt8
  message : List UInt8
deriving DecidableEq

def Event.timestamp (e : Event) : Option ℤ := e.eventTime <|> e.lastTimestamp

/-- The item of an event. What `boundedText` cuts off is bytes, not characters. -/
def Event.item (e : Event) : RuntimeEvent where
  timestampUnixNano := Int64.ofInt (e.timestamp.getD 0)
  type := e.type.take 253
  reason := e.reason.take 253
  message := e.message.take (64 * 1024)

/-- The event is about an object of the target, and not too old; without a time it is. -/
def Owned (uids : List String) (since : Int64) (e : Event) : Prop :=
  e.regarding ∈ uids ∧ ∃ time ∈ e.timestamp, since.toInt ≤ time
deriving Decidable

/-- What one of the two loops appends. -/
def ownedItems (uids : List String) (since : Int64) (listing : Option (List Event)) :
    List RuntimeEvent :=
  (((listing.getD []).take 500).filter (Owned uids since ·)).map Event.item

/-- The order of the answer. -/
def NotOlder (x y : RuntimeEvent) : Prop := y.timestampUnixNano ≤ x.timestampUnixNano
deriving Decidable

/-- `events`, with the objects that `target` found and the listings that there are: the items, and
what is unavailable. -/
def events (target : Except String (List String)) (since : Int64) (limit : ℤ)
    (coreEvents modernEvents : Option (List Event)) :
    Except String (List RuntimeEvent × List String) := do
  let uids ← target
  require (coreEvents ≠ none ∨ modernEvents ≠ none) "list Kubernetes Events"
  let items := ownedItems uids since coreEvents ++ ownedItems uids since modernEvents
  return ((items.insertionSort NotOlder).take (min (max limit 1) 200).toNat,
    (if coreEvents = none then ["core/v1"] else []) ++
      if modernEvents = none then ["events.k8s.io/v1"] else [])

/-- The order of the answer, on the events. -/
def NotBefore (d e : Event) : Prop := NotOlder d.item e.item
deriving Decidable

instance total_notBefore : Std.Total NotBefore := ⟨fun _ _ => Int64.le_total ..⟩

instance isTrans_notBefore : IsTrans Event NotBefore := ⟨fun _ _ _ h h' => Int64.le_trans h' h⟩

/-- The owned events than which none is newer. -/
def newest (uids : List String) (since : Int64) (listed : List Event) : List Event :=
  (listed.filter (Owned uids since ·)).filter fun e => ∀ d ∈ listed, Owned uids since d →
    d.timestamp.getD 0 ≤ e.timestamp.getD 0

section Sorted

variable {α : Type*} {r : α → α → Prop} {l : List α} {p : α → Bool}

end Sorted

section Listings

variable {uids : List String} {since : Int64} {limit : ℤ} {listed core modern : List Event}

end Listings

end Molejo.Query
