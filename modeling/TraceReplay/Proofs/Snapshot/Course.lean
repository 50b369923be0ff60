import TraceReplay.Proofs.Session.Watching
import TraceReplay.Snapshot.Course

/-!
# A snapshot step takes its course

Each part of a snapshot step asks what the policy and the answers before it call for
(`SnapshotPolicy.deliver_course`, `judge_course`, `capture_course`), whatever the backend answers. Together
they take the course of the step, and the report is that of the course (`SnapshotPolicy.take_course`).
-/

namespace TraceReplay

variable {σ : Type} {b : Backend σ}

/-- What was asked of a backend under watch, and what was told, from one state to another. -/
structure Journaled.Goes (effects : List Effect) (told : List Message) (s t : Journaled (Watched σ)) :
    Prop where
  effects : t.effects = s.effects ++ effects
  told : t.world.told = s.world.told ++ told

namespace Journaled.Goes

variable {s t u : Journaled (Watched σ)} {effects effects' : List Effect} {told told' : List Message}

theorem refl (s : Journaled (Watched σ)) : Goes [] [] s s :=
  ⟨(List.append_nil _).symm, (List.append_nil _).symm⟩

theorem trans (h : Goes effects told s t) (h' : Goes effects' told' t u) :
    Goes (effects ++ effects') (told ++ told') s u := by
  refine ⟨?_, ?_⟩
  · rw [h'.effects, h.effects, List.append_assoc]
  · rw [h'.told, h.told, List.append_assoc]

/-- An answer of the backend is noted. -/
theorem note {α : Type} (action : StateM σ α) (effect : α → Effect) (s : Journaled (Watched σ)) :
    Ensures (Journaled.note (Watched.pass action) effect) s fun answer t => Goes [effect answer] [] s t :=
  ⟨rfl, (List.append_nil _).symm⟩

/-- The user is told something. -/
theorem tell (b : Backend σ) (message : Message) (s : Journaled (Watched σ)) :
    Ensures (b.watched.journaled.tell message) s fun _ t => Goes [] [message] s t :=
  ⟨(List.append_nil _).symm, rfl⟩

end Journaled.Goes

open Journaled (Goes)

namespace SnapshotPolicy

variable (p : SnapshotPolicy) (b) (n : UInt32) (image : Image) (s : Journaled (Watched σ))

/-- An image is delivered as the policy wants it, and the report says so. -/
theorem deliver_course (report : SnapshotReport) (number : report.callNo = n)
    (unwritten : report.written? = none) (unstreamed : report.streamed = false) :
    Ensures (p.deliver b.watched.journaled image report) s fun r t =>
      ∃ delivery?, p.Delivers n (some image) delivery? ∧
        r = { report with
          written? := delivery?.bind Delivery.written?
          streamed := delivery?.any Delivery.isStreamed } ∧
        Goes (delivery?.map Delivery.effect).toList
          (delivery?.toList.flatMap (Delivery.messages n)) s t := by
  have unchanged : { report with written? := none, streamed := false } = report := by
    rw [← unwritten, ← unstreamed]
  subst number
  unfold deliver
  cases target : p.writeTo? with
  | none =>
    refine .pure ⟨none, ⟨?_, ?_⟩, unchanged.symm, .refl s⟩
    · simp [target]
    · simp [target]
  | some start =>
    by_cases mark : start = streamMark
    · have wanted : ∀ answer, p.Delivers report.callNo (some image)
          (some (.streamed image (toString report.callNo.toNat) answer)) := fun answer => by
        refine ⟨?_, ?_⟩
        · simp [target, mark, eq_comm]
        · simp [target, mark]
      simp only [mark, if_pos]
      refine .bind (Goes.note (b.stream image (toString report.callNo.toNat))
        (.streamed image (toString report.callNo.toNat)) s) ?_
      rintro (e | _) t asked
      · refine .bind (Goes.tell b _ t) fun _ u told => .pure ?_
        exact ⟨_, wanted (.error e), unchanged.symm, asked.trans told⟩
      · refine .pure ⟨_, wanted (.ok ()), ?_, asked⟩
        show { report with streamed := true } = { report with written? := none, streamed := true }
        rw [← unwritten]
    · have wanted : ∀ answer, p.Delivers report.callNo (some image)
          (some (.wrote image (snapshotPath start report.callNo) answer)) := fun answer => by
        refine ⟨?_, ?_⟩
        · simp [target, mark]
        · simp [target, mark, eq_comm]
      simp only [mark, if_neg, not_false_eq_true]
      refine .bind (Goes.note (b.write image (snapshotPath start report.callNo))
        (.wrote image (snapshotPath start report.callNo)) s) ?_
      rintro (_ | _) t asked
      · exact .pure ⟨_, wanted false, unchanged.symm, asked⟩
      · refine .bind (Goes.tell b _ t) fun _ u told => .pure ?_
        refine ⟨_, wanted true, ?_, asked.trans told⟩
        show { report with written? := some (snapshotPath start report.callNo) } =
          { report with written? := some (snapshotPath start report.callNo), streamed := false }
        rw [← unstreamed]

/-- The image is compared with the reference, if there is one, and the report and the user know. -/
theorem judge_course (reference? : Option Image) (report : SnapshotReport) (number : report.callNo = n)
    (unjudged : report.precision? = none) :
    Ensures (p.judge b.watched.journaled image reference? report) s fun r t =>
      ∃ compared? : Option (Image × Image × Precision),
        (∀ image' reference, (∃ precision, compared? = some (image', reference, precision)) ↔
          image = image' ∧ reference? = some reference) ∧
        r = { report with precision? := compared?.map fun (_, _, precision) => precision } ∧
        Goes (compared?.map fun (image, reference, answer) => .compared image reference answer).toList
          (compared?.map fun (_, _, precision) => Course.precisionMessage p n precision).toList s t := by
  subst number
  unfold judge
  cases reference? with
  | none =>
    refine .pure ⟨none, by simp, ?_, .refl s⟩
    rw [Option.map_none, ← unjudged]
  | some reference =>
    refine .bind (Goes.note (b.compare image reference) (.compared image reference) s) ?_
    intro precision t asked
    refine .bind (Goes.tell b _ t) fun _ u told => .pure ?_
    exact ⟨some (image, reference, precision), by simp, rfl, asked.trans told⟩

/-- A capture, and what follows it, takes its course from there on. -/
theorem capture_course (reference? : Option Image) (path? : Option String) :
    Ensures (p.capture b.watched.journaled reference? { callNo := n, reference? := path? }) s fun r t =>
      ∃ k : Course, k.loaded? = none ∧ k.captured?.isSome ∧ p.Delivers n k.image? k.delivered? ∧
        (∀ image reference, (∃ precision, k.compared? = some (image, reference, precision)) ↔
          k.image? = some image ∧ reference? = some reference) ∧
        r = { k.report n with reference? := path? } ∧ Goes k.effects (k.messages p n) s t := by
  unfold capture
  refine .bind (Goes.note b.capture .captured s) ?_
  rintro (_ | image) t asked
  · refine .pure ⟨{ captured? := some none }, rfl, rfl, ⟨?_, ?_⟩, ?_, rfl, asked⟩
    all_goals simp [Course.image?]
  · refine .bind (p.deliver_course b n image t _ rfl rfl rfl) ?_
    rintro _ u ⟨delivery?, delivers, rfl, delivered⟩
    refine (p.judge_course b n image u reference? _ rfl rfl).mono ?_
    rintro _ v ⟨compared?, compares, rfl, judged⟩
    refine ⟨⟨none, some (some image), delivery?, compared?⟩, rfl, rfl, delivers, ?_, rfl, ?_⟩
    · intro image' reference
      rw [compares]
      simp [Course.image?]
    · have all := (asked.trans delivered).trans judged
      rw [List.nil_append] at all
      exact all

theorem isEnabled_iff : p.isEnabled = true ↔ ¬ (p.writeTo? = none ∧ p.compareWith? = none) := by
  rw [isEnabled]
  cases p.writeTo? <;> cases p.compareWith? <;> simp

/-- No image, no delivery. -/
theorem delivers_none : p.Delivers n none none := by
  constructor <;> simp

/-- A snapshot step takes its course, and its report is that of the course. -/
theorem take_course :
    Ensures (p.take b.watched.journaled n) s fun r t =>
      ∃ k : Course, k.IsFor p n ∧ r = k.report n ∧ Goes k.effects (k.messages p n) s t := by
  have enabled := p.isEnabled_iff
  unfold take
  dsimp only
  by_cases rests : p.isEnabled = true
  case neg =>
    obtain ⟨nowhere, nothing⟩ := not_not.1 (mt enabled.2 rests)
    rw [if_pos (by simpa using rests)]
    refine .pure ⟨{}, ⟨fun _ _ => rfl, ?loads, ?captures, p.delivers_none n, ?compares⟩, rfl, .refl s⟩
    case loads =>
      rw [nothing]
      rfl
    case captures => simp [rests]
    case compares => simp [Course.image?]
  have busy : p.writeTo? = none → p.compareWith? = none → False := fun nowhere nothing =>
    enabled.1 rests ⟨nowhere, nothing⟩
  rw [if_neg (by simpa using rests)]
  cases compared : p.compareWith? with
  | none =>
    refine (p.capture_course b n s none none).mono ?_
    rintro _ t ⟨k, unloaded, captured, delivers, compares, rfl, goes⟩
    have missing : k.reference? = none := by rw [Course.reference?, unloaded]; rfl
    refine ⟨k, ⟨fun nowhere nothing => (busy nowhere nothing).elim, ?loads, ?captures, delivers, ?compares⟩,
      ?report, goes⟩
    case loads =>
      rw [unloaded, compared]
      rfl
    case captures => simp [captured, rests, unloaded]
    case compares =>
      rw [missing]
      exact compares
    case report =>
      rw [Course.report, unloaded]
      rfl
  | some start =>
    refine .bind (Goes.note (b.load (snapshotPath start n)) (.loaded (snapshotPath start n)) s) ?_
    rintro (_ | reference) t asked
    · refine .pure ⟨{ loaded? := some (snapshotPath start n, none) },
        ⟨fun nowhere nothing => (busy nowhere nothing).elim, ?loads, ?captures, p.delivers_none n, ?compares⟩,
        rfl, asked⟩
      case loads =>
        rw [compared]
        rfl
      case captures => simp
      case compares => simp [Course.image?]
    · refine .bind (Goes.tell b _ t) fun _ u told => ?_
      refine (p.capture_course b n u (some reference) (some (snapshotPath start n))).mono ?_
      rintro _ v ⟨k, unloaded, captured, delivers, compares, rfl, goes⟩
      refine ⟨{ k with loaded? := some (snapshotPath start n, some reference) },
        ⟨fun nowhere nothing => (busy nowhere nothing).elim, ?loads, ?captures, delivers, compares⟩, rfl,
        ?goes⟩
      case loads =>
        rw [compared]
        rfl
      case captures => simp [captured, rests]
      case goes =>
        have all := (asked.trans told).trans goes
        simpa [Course.effects, Course.messages, unloaded] using all

end SnapshotPolicy

/-- Whatever the backend answers, a snapshot step takes the course that its policy wants, and tells the
truth about it. To watch it changes nothing. -/
theorem report_of_course (b : Backend σ) (p : SnapshotPolicy) (n : UInt32) (w : σ) :
    Ensures (p.take b.watched.journaled n) (.unseen w) fun report after =>
      p.take b n w = (report, after.world.world) ∧
        ∃ k : Course, k.IsFor p n ∧ after.effects = k.effects ∧ after.world.told = k.messages p n ∧
          report = k.report n := by
  obtain ⟨same, world⟩ := (b.mirrors_unwatched.journaled_left.toSnapsAlike).take p n (.unseen w) w rfl
  obtain ⟨k, takes, report, effects, told⟩ := p.take_course b n (.unseen w)
  exact ⟨Prod.ext same.symm world.symm, k, takes, effects, told, report⟩

end TraceReplay
