import TraceReplay.Draw.EagerCanvas
import TraceReplay.Session.Studio

/-!
# Nobody sees that painting is buffered

The executor buffers clears and fills, and paints them before anything else happens to the canvas.
`EagerCanvas` paints at once. `Canvas.shown` says what a canvas shows when everything is painted, and
it turns every operation of the one into the same operation of the other (`operate_eq`). So every
sequence of operations gives the same answers on both and leads to the same pictures, wherever
flushes stand in it.
-/

namespace TraceReplay

/-- What can be asked of a canvas. -/
inductive CanvasOp
  /-- Perform a call, as the executor does. -/
  | apply (call : Call)
  | submit (command : DrawCommand)
  | flush
  | capture
deriving DecidableEq

/-- What is seen of an operation. -/
inductive CanvasAnswer
  | silent
  | performed (outcome : Performed)
  | captured (image? : Option Image)
deriving DecidableEq

/-- The operation on the canvas of a studio. -/
def Studio.operate (codec : ImageCodec) : CanvasOp → StateM Studio CanvasAnswer
  | .apply call => CanvasAnswer.performed <$> (Studio.backend codec).perform call
  | .submit command => fun s => (.silent, { s with canvas := s.canvas.submit command })
  | .flush => (fun _ => CanvasAnswer.silent) <$> (Studio.backend codec).flush
  | .capture => CanvasAnswer.captured <$> (Studio.backend codec).capture

/-- The same operation on a canvas without a buffer, where there is nothing to flush. -/
def EagerCanvas.operate : CanvasOp → StateM EagerCanvas CanvasAnswer
  | .apply call => fun e =>
    match e.apply call.payload with
    | .ok after => (.performed .done, after)
    | .error cause => (.performed (.failed ⟨call.no, cause.message⟩), e)
  | .submit command => fun e => (.silent, e.submit command)
  | .flush => pure .silent
  | .capture => fun e => (.captured (some e.capture), e)

namespace Canvas

/-- A canvas with nothing pending shows what it is. -/
theorem shown_of_pending {c : Canvas} (none : c.pending = #[]) :
    c.shown = ⟨c.width, c.height, c.targets, c.bound, c.pixelsDrawn, c.presents⟩ := by
  rw [shown, flush, none]
  rfl

theorem shown_flush (c : Canvas) : c.flush.shown = c.shown := by
  rw [shown, flush_flush]
  rfl

theorem shown_ofSize (width height : Nat) : (ofSize width height).shown = .ofSize width height := rfl

/-- A canvas with something pending shows it in the bound target. -/
theorem shown_of_pending_ne {c : Canvas} (some : c.pending ≠ #[]) :
    c.shown =
      ⟨c.width, c.height,
        c.targets.insert c.bound (c.boundImage.paintAll c.pending.toList).1, c.bound,
        c.pixelsDrawn + (c.boundImage.paintAll c.pending.toList).2, c.presents⟩ := by
  rw [shown, flush, if_neg (by simpa using some)]

/-- What is queued last is painted last. -/
theorem shown_enqueue (c : Canvas) (command : DrawCommand) :
    (c.enqueue command).shown =
      { c.shown with
        targets := c.shown.targets.insert c.shown.bound (c.shown.boundImage.paint command).1
        pixelsDrawn := c.shown.pixelsDrawn + (c.shown.boundImage.paint command).2 } := by
  have image : (c.enqueue command).boundImage = c.boundImage := rfl
  have queue : (c.enqueue command).pending.toList = c.pending.toList ++ [command] :=
    Array.toList_push
  rw [shown_of_pending_ne (by simp [enqueue]), image, queue, Image.paintAll_concat]
  by_cases none : c.pending = #[]
  · have unpainted : c.boundImage.paintAll c.pending.toList = (c.boundImage, 0) := by
      rw [none]
      rfl
    have bound : c.shown.boundImage = c.boundImage := by
      rw [shown_of_pending none]
      rfl
    rw [unpainted, bound, shown_of_pending none, Nat.zero_add]
    rfl
  · have bound : c.shown.boundImage = (c.boundImage.paintAll c.pending.toList).1 := by
      rw [shown_of_pending_ne none, EagerCanvas.boundImage, Targets.find?_insert, if_pos rfl]
      rfl
    rw [bound, shown_of_pending_ne none, Targets.insert_insert, ← Nat.add_assoc]
    rfl

/-- To submit a command and paint it later shows the same as to paint it at once. -/
theorem shown_submit (c : Canvas) (command : DrawCommand) :
    (c.submit command).shown = c.shown.submit command := by
  cases command with
  | nop => rfl
  | clear color => exact c.shown_enqueue (.clear color)
  | fill x y width height color => exact c.shown_enqueue (.fill x y width height color)
  | resize width height => exact shown_of_pending c.pending_flush
  | bind id => exact shown_of_pending c.pending_flush
  | present => exact shown_of_pending c.pending_flush

end Canvas

/-- A payload that is a command is performed on both canvases, and one that is none on neither. -/
theorem Studio.perform_cases (s : Studio) (call : Call) :
    (∃ command, DrawCommand.decode call.payload = .ok command ∧
      s.perform call = (.done, { s with canvas := s.canvas.submit command }) ∧
      s.canvas.shown.apply call.payload = .ok (s.canvas.shown.submit command)) ∨
    ∃ cause, DrawCommand.decode call.payload = .error cause ∧
      s.perform call = (.failed ⟨call.no, cause.message⟩, s) ∧
      s.canvas.shown.apply call.payload = .error cause := by
  cases decoded : DrawCommand.decode call.payload with
  | ok command =>
    refine .inl ⟨command, rfl, ?_, ?_⟩
    · rw [perform, Canvas.apply, decoded]
      rfl
    · rw [EagerCanvas.apply, decoded]
      rfl
  | error cause =>
    refine .inr ⟨cause, rfl, ?_, ?_⟩
    · rw [perform, Canvas.apply, decoded]
      rfl
    · rw [EagerCanvas.apply, decoded]
      rfl

/-- An operation has the same answer on both canvases, and shows the same afterwards. -/
theorem Studio.operate_eq (codec : ImageCodec) (s : Studio) (op : CanvasOp) :
    EagerCanvas.operate op s.canvas.shown =
      ((Studio.operate codec op s).1, (Studio.operate codec op s).2.canvas.shown) := by
  cases op with
  | apply call =>
    have performed : Studio.operate codec (.apply call) s =
        (.performed (s.perform call).1, (s.perform call).2) := rfl
    rw [performed]
    rcases s.perform_cases call with ⟨command, _, done, eager⟩ | ⟨cause, _, failed, eager⟩
    · simp only [EagerCanvas.operate, done, eager, Canvas.shown_submit]
    · simp only [EagerCanvas.operate, failed, eager]
  | submit command =>
    rw [Studio.operate, Canvas.shown_submit]
    rfl
  | flush =>
    have flushed : Studio.operate codec .flush s = (.silent, { s with canvas := s.canvas.flush }) := rfl
    rw [flushed, Canvas.shown_flush]
    rfl
  | capture =>
    have captured : Studio.operate codec .capture s =
        (.captured (some s.canvas.shown.capture), { s with canvas := s.canvas.flush }) := rfl
    rw [captured, Canvas.shown_flush]
    rfl

/-- Operations one after the other, each from the state that the one before it left. -/
theorem mapM_cons_apply {α β ρ : Type} (f : α → StateM ρ β) (x : α) (xs : List α) (s : ρ) :
    (x :: xs).mapM f s =
      ((f x s).1 :: (xs.mapM f (f x s).2).1, (xs.mapM f (f x s).2).2) := by
  rw [List.mapM_cons]
  rfl

/-- So have all operations of a sequence. -/
theorem Studio.mapM_operate_eq (codec : ImageCodec) (s : Studio) (ops : List CanvasOp) :
    ops.mapM EagerCanvas.operate s.canvas.shown =
      ((ops.mapM (Studio.operate codec) s).1, (ops.mapM (Studio.operate codec) s).2.canvas.shown) := by
  induction ops generalizing s with
  | nil => rfl
  | cons op ops ih =>
    rw [mapM_cons_apply, mapM_cons_apply, Studio.operate_eq codec s op, ih (operate codec op s).2]

/-- Without a buffer a flush is nothing. -/
theorem EagerCanvas.mapM_operate_filter (e : EagerCanvas) (ops : List CanvasOp) :
    ((ops.filter (· ≠ .flush)).mapM operate e).1.filter (· ≠ .silent) =
      (ops.mapM operate e).1.filter (· ≠ .silent) := by
  induction ops generalizing e with
  | nil => rfl
  | cons op ops ih =>
    rw [mapM_cons_apply]
    by_cases flush : op = .flush
    · subst flush
      rw [List.filter_cons_of_neg (by simp)]
      exact ih e
    · rw [List.filter_cons_of_pos (by simpa using flush), mapM_cons_apply, List.filter_cons,
        List.filter_cons, ih (operate op e).2]

/-- So nobody sees where flushes stand. -/
theorem Studio.mapM_operate_filter (codec : ImageCodec) (s : Studio) (ops : List CanvasOp) :
    ((ops.filter (· ≠ .flush)).mapM (operate codec) s).1.filter (· ≠ .silent) =
      (ops.mapM (operate codec) s).1.filter (· ≠ .silent) := by
  have same := EagerCanvas.mapM_operate_filter s.canvas.shown ops
  rwa [Studio.mapM_operate_eq codec, Studio.mapM_operate_eq codec] at same

/-- A studio and a canvas without a buffer, from the same start and with the same operations. -/
structure LooksEager (codec : ImageCodec) (start : Studio) (reference : EagerCanvas)
    (ops : List CanvasOp) : Prop where
  /-- All answers agree: the images of captures, and which payloads fail, and how. -/
  answers : (ops.mapM (Studio.operate codec) start).1 = (ops.mapM EagerCanvas.operate reference).1
  /-- A flush now shows the targets, bound target, size, presents and painted pixels of the
  reference. -/
  shows : (ops.mapM (Studio.operate codec) start).2.canvas.shown =
    (ops.mapM EagerCanvas.operate reference).2
  /-- The next payload is performed on both or fails on both, and then leaves the studio as it is,
  the pending commands included. -/
  next : ∀ call,
    let real := (ops.mapM (Studio.operate codec) start).2
    let eager := (ops.mapM EagerCanvas.operate reference).2
    (∃ command, DrawCommand.decode call.payload = .ok command ∧
      real.perform call = (.done, { real with canvas := real.canvas.submit command }) ∧
      eager.apply call.payload = .ok (eager.submit command)) ∨
    ∃ cause, DrawCommand.decode call.payload = .error cause ∧
      real.perform call = (.failed ⟨call.no, cause.message⟩, real) ∧
      eager.apply call.payload = .error cause
  /-- Operations that differ in flushes only have the same answers. -/
  flushes : ∀ others : List CanvasOp, others.filter (· ≠ .flush) = ops.filter (· ≠ .flush) →
    (others.mapM (Studio.operate codec) start).1.filter (· ≠ .silent) =
      (ops.mapM (Studio.operate codec) start).1.filter (· ≠ .silent)

/-- After all operations from the start, a canvas cannot be told from one that paints at once. -/
theorem looksEager_ofSize (codec : ImageCodec) (s : Studio) (width height : Nat)
    (ops : List CanvasOp) :
    LooksEager codec { s with canvas := .ofSize width height } (.ofSize width height) ops := by
  let start : Studio := { s with canvas := .ofSize width height }
  have begun : start.canvas.shown = .ofSize width height := Canvas.shown_ofSize width height
  have same := Studio.mapM_operate_eq codec start ops
  rw [begun] at same
  constructor
  case answers => rw [same]
  case shows => rw [same]
  case next =>
    intro call
    rw [same]
    exact Studio.perform_cases _ call
  case flushes =>
    intro others agree
    rw [← Studio.mapM_operate_filter codec _ others, agree, Studio.mapM_operate_filter]

/-- A fill that is pending when another target is bound goes into the target it was submitted for. -/
example : ([.submit (.clear ⟨255, 0, 0, 255⟩), .submit (.bind 1), .capture, .submit (.bind 0),
      .capture].mapM EagerCanvas.operate (.ofSize 2 1)).1.filter (· ≠ .silent) =
    [.captured (some (.blank 2 1)), .captured (some (.solid 2 1 ⟨255, 0, 0, 255⟩))] := by
  decide

end TraceReplay
