import TraceReplay.Proofs.Session.Written

/-!
# Snapshots that share a file

The numbers of calls increase along a trace, so two snapshot steps are filed under one number only if
their calls are neighbours. A step after the effect of its call and a later step under the same number,
which comes before the next effect, show the same (`pictures_pairwise`); the file then keeps what both
captured (`snapshots_kept`). A step before the effect of a call that ends a frame, or of call 0, may be
followed by one that shows something else under the same number (`snapshot_overwritten`).
-/

namespace TraceReplay

/-- What becomes of the snapshots of a race. -/
structure SnapshotsKept (codec : ImageCodec) (p : SnapshotPolicy) (shots : List Shot)
    (files : Files) : Prop where
  /-- Two steps under one number captured the same, unless the first of them was taken before the
  effect of its call. -/
  same : shots.Pairwise fun a b => a.number = b.number → a.early = false →
    ∀ x y, a.image? = some x → b.image? = some y → x = y
  /-- The file that a step wrote is that of its number and still holds what the step captured, unless
  the step was taken before the effect of its call and a later one has the same number. -/
  held : ∀ before a after, shots = before ++ a :: after →
    (a.early = true → ∀ b ∈ after, b.number ≠ a.number) →
    ∀ path image, a.report.written? = some path → a.image? = some image →
      ∃ start content, p.writeTo? = some start ∧ path = snapshotPath start a.number ∧
        codec.encode image = .ok content ∧ files.read path = .ok content

/-- So it is when pictures with the same number show the same. -/
theorem Filmed.snapshotsKept {codec : ImageCodec} {p : SnapshotPolicy} {before after : Files}
    {pics : List Picture} {shots : List Shot} (h : Filmed codec p before pics shots after)
    (pairwise : pics.Pairwise fun a b => a.number = b.number → a.early = false → a.image = b.image) :
    SnapshotsKept codec p shots after := by
  have same : shots.Pairwise fun a b => a.number = b.number → a.early = false →
      ∀ x y, a.image? = some x → b.image? = some y → x = y := by
    induction h with
    | nil => exact .nil
    | cons takes rest ih =>
      obtain ⟨first, pairwise⟩ := List.pairwise_cons.1 pairwise
      refine List.pairwise_cons.2 ⟨fun b mem number late x y captured captured' => ?_, ih pairwise⟩
      obtain ⟨pic, mem, number', _, image⟩ := rest.exists_of_mem mem
      rw [takes.image_eq captured, image y captured']
      exact first pic mem (takes.number.symm.trans (number.trans number'))
        (takes.early.symm.trans late)
  refine ⟨same, ?_⟩
  rintro left a right rfl apart path image written captured
  obtain ⟨_, _, _, _, takes, rest⟩ := h.split
  obtain ⟨start, writes, rfl, wrote⟩ := takes.of_written written captured
  obtain ⟨content, encoded, _⟩ := ImageCodec.write_ok_iff.1 wrote
  have later := (List.pairwise_cons.1 (List.pairwise_append.1 same).2.1).1
  refine ⟨start, content, writes, rfl, encoded, rest.read_kept writes encoded ?_
    (ImageCodec.read_of_write_ok encoded wrote)⟩
  intro b mem number y captured'
  cases early : a.early with
  | true => exact absurd number (apart early b mem)
  | false => exact (later b mem number.symm early image y captured captured').symm

/-- In a race over calls with increasing numbers, no snapshot that was taken after the effect of its
call is overwritten by a different picture. -/
theorem snapshots_kept {codec : ImageCodec} {source : Source} {player : Player} {s : Studio}
    {moves : List Move} {f : Field Studio} {result : RaceEnd}
    (increasing : source.calls.Pairwise (·.no < ·.no))
    (made : (Field.launch source player s).performAll (fun _ => Studio.backend codec) moves = some f)
    (ended : f.end? = some result) :
    SnapshotsKept codec player.policy
      ((Field.launch source player s).shots (fun _ => Studio.backend codec) moves) f.world.files := by
  obtain ⟨pics, rest, split, _, reel⟩ := race_films made ended
  have pairwise : (pictures player.policy.selects s.canvas.shown source.calls).Pairwise _ :=
    pictures_pairwise increasing s.canvas.shown
  rw [split] at pairwise
  exact reel.filmed.snapshotsKept (List.pairwise_append.1 pairwise).1

/-- Every call is written to a file. -/
def everyCall : SnapshotPolicy := { writeTo? := some "s", writeCalls := ⟨[.whole]⟩ }

/-- A race on one pixel. -/
def onePixelRace (calls : List Call) : Field Studio :=
  .launch (.ofCalls calls) (.start everyCall none false) { canvas := .ofSize 1 1 }

/-- The home runner plays all calls and settles the race. -/
def playAlone (calls : List Call) : List Move :=
  .replicate calls.length (.play homeLeg) ++ [.close, .settle]

/-- What it takes then. -/
def onePixelShots (calls : List Call) : List Shot :=
  (onePixelRace calls).shots (fun _ => Studio.backend Png.codec) (playAlone calls)

/-- A red frame, and a switch after it. -/
def frameThenSwitch : List Call :=
  [⟨4, homeLeg, .endFrame, [1, 255, 0, 0, 255]⟩, ⟨5, homeLeg, .swapTarget, [4, 1]⟩]

/-- The frame and the switch share a file, and a red pixel. -/
theorem snapshots_kept_of_frame_then_switch :
    frameThenSwitch.Pairwise (·.no < ·.no) ∧
      (onePixelShots frameThenSwitch).map (fun a => (a.number, a.early, a.image?)) =
        [(4, false, some (.solid 1 1 ⟨255, 0, 0, 255⟩)), (4, true, some (.solid 1 1 ⟨255, 0, 0, 255⟩))] ∧
      ∃ f result, (onePixelRace frameThenSwitch).performAll (fun _ => Studio.backend Png.codec)
          (playAlone frameThenSwitch) = some f ∧ f.end? = some result ∧
        SnapshotsKept Png.codec everyCall (onePixelShots frameThenSwitch) f.world.files := by
  have increasing : (Source.ofCalls frameThenSwitch).calls.Pairwise (·.no < ·.no) := by decide
  have made : (onePixelRace frameThenSwitch).performAll (fun _ => Studio.backend Png.codec)
    (playAlone frameThenSwitch) = some _ := rfl
  exact ⟨increasing, rfl, _, _, made, rfl, snapshots_kept increasing made rfl⟩

/-- A red clear, a switch that ends a frame and binds a blank target, and another switch. -/
def switchTwice : List Call :=
  [⟨0, homeLeg, .none, [1, 255, 0, 0, 255]⟩, ⟨5, homeLeg, ⟨3⟩, [4, 1]⟩, ⟨6, homeLeg, .swapTarget, []⟩]

/-- Both switches are filed under one number, the first with a red pixel and the second with a blank
one. -/
theorem snapshot_overwritten :
    switchTwice.Pairwise (·.no < ·.no) ∧
      (∃ f result, (onePixelRace switchTwice).performAll (fun _ => Studio.backend Png.codec)
        (playAlone switchTwice) = some f ∧ f.end? = some result) ∧
      (onePixelShots switchTwice).map (fun a => (a.number, a.image?)) =
        [(0, some (.solid 1 1 ⟨255, 0, 0, 255⟩)), (5, some (.solid 1 1 ⟨255, 0, 0, 255⟩)),
          (5, some (.blank 1 1))] ∧
      ¬ (onePixelShots switchTwice).Pairwise fun a b => a.number = b.number → a.image? = b.image? := by
  have pictured : (onePixelShots switchTwice).map (fun a => (a.number, a.image?)) =
      [(0, some (.solid 1 1 ⟨255, 0, 0, 255⟩)), (5, some (.solid 1 1 ⟨255, 0, 0, 255⟩)),
        (5, some (.blank 1 1))] := rfl
  refine ⟨by decide, ⟨_, _, rfl, rfl⟩, pictured, fun same => ?_⟩
  have distinct : ((onePixelShots switchTwice).map fun a => (a.number, a.image?)).Pairwise
      fun a b => a.1 = b.1 → a.2 = b.2 := List.pairwise_map.2 same
  rw [pictured] at distinct
  revert distinct
  decide

end TraceReplay
