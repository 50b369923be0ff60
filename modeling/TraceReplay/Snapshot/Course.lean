import TraceReplay.Replay.Journal
import TraceReplay.Snapshot.Step

/-!
# Courses

How far a snapshot step gets. A `Course` has what a step asked of its backend, each question at most once
and in this order, with the answers: to load the reference, to capture the output, to deliver the image, to
compare it. Which questions are asked depends on the policy and on the answers so far (`Course.IsFor`). What
was asked in all, what the user was told, and the report can be read off a course.
-/

namespace TraceReplay

/-- What became of an image that was to be put somewhere. -/
inductive Delivery
  | streamed (image : Image) (comment : String) (answer : Except StorageFault Unit)
  | wrote (image : Image) (path : String) (answer : Bool)

namespace Delivery

def effect : Delivery → Effect
  | streamed image comment answer => .streamed image comment answer
  | wrote image path answer => .wrote image path answer

/-- The image went to the stream. -/
def isStreamed : Delivery → Bool
  | streamed _ _ (.ok _) => true
  | _ => false

/-- The file that was written. -/
def written? : Delivery → Option String
  | wrote _ path true => some path
  | _ => none

/-- What the user is told. -/
def messages (callNo : UInt32) : Delivery → List Message
  | streamed _ _ (.error e) =>
    [.logged .warning (s!"Failed to stream snapshot {callNo.toNat}: " ++ e.message)]
  | wrote _ path true => [.logged .info s!"Wrote {path}"]
  | _ => []

end Delivery

/-- What a snapshot step asked of its backend, as far as it got. -/
structure Course where
  /-- The path of the reference, and what was found there. -/
  loaded? : Option (String × Option Image) := none
  captured? : Option (Option Image) := none
  delivered? : Option Delivery := none
  /-- The image, the reference and the precision. -/
  compared? : Option (Image × Image × Precision) := none

namespace Course

/-- The reference that was loaded. -/
def reference? (k : Course) : Option Image := k.loaded?.bind Prod.snd

/-- The image that was captured. -/
def image? (k : Course) : Option Image := k.captured?.join

/-- All that was asked, in order. -/
def effects (k : Course) : List Effect :=
  (k.loaded?.map fun (path, answer?) => .loaded path answer?).toList
    ++ (k.captured?.map .captured).toList
    ++ (k.delivered?.map Delivery.effect).toList
    ++ (k.compared?.map fun (image, reference, answer) => .compared image reference answer).toList

/-- The line that tells a precision leaves standard output to the stream when there is one. -/
def precisionMessage (p : SnapshotPolicy) (callNo : UInt32) (precision : Precision) : Message :=
  if p.streams then .noted (precisionLine callNo precision)
  else .printed (precisionLine callNo precision)

/-- All that the user was told, in order. -/
def messages (p : SnapshotPolicy) (callNo : UInt32) (k : Course) : List Message :=
  (k.loaded?.bind fun (path, answer?) =>
      answer?.map fun _ => Message.logged .info s!"Read {path}").toList
    ++ k.delivered?.toList.flatMap (Delivery.messages callNo)
    ++ (k.compared?.map fun (_, _, precision) => precisionMessage p callNo precision).toList

/-- What there is to report. -/
def report (callNo : UInt32) (k : Course) : SnapshotReport where
  callNo
  reference? := k.loaded?.bind fun (path, answer?) => answer?.map fun _ => path
  captured := k.image?.isSome
  written? := k.delivered?.bind Delivery.written?
  streamed := k.delivered?.any Delivery.isStreamed
  precision? := k.compared?.map fun (_, _, precision) => precision

end Course

/-- The delivery is the one that the policy wants for an image, if there is one. -/
structure SnapshotPolicy.Delivers (p : SnapshotPolicy) (callNo : UInt32) (image? : Option Image)
    (delivery? : Option Delivery) : Prop where
  streams : ∀ image comment, (∃ answer, delivery? = some (.streamed image comment answer)) ↔
    image? = some image ∧ p.writeTo? = some streamMark ∧ comment = toString callNo.toNat
  writes : ∀ image path, (∃ answer, delivery? = some (.wrote image path answer)) ↔
    image? = some image ∧
      ∃ start, p.writeTo? = some start ∧ start ≠ streamMark ∧ path = snapshotPath start callNo

/-- The course of a snapshot step that is filed under a call number. -/
structure Course.IsFor (p : SnapshotPolicy) (callNo : UInt32) (k : Course) : Prop where
  /-- Without a place to write to and references to compare with nothing is asked. -/
  rests : p.writeTo? = none → p.compareWith? = none → k.effects = []
  loads : k.loaded?.map Prod.fst = p.compareWith?.map (snapshotPath · callNo)
  /-- A missing reference ends the step. -/
  captures : k.captured?.isSome ↔ p.isEnabled ∧ ∀ path, k.loaded? ≠ some (path, none)
  delivers : p.Delivers callNo k.image? k.delivered?
  /-- Whatever became of the delivery. -/
  compares : ∀ image reference, (∃ precision, k.compared? = some (image, reference, precision)) ↔
    k.image? = some image ∧ k.reference? = some reference

end TraceReplay
