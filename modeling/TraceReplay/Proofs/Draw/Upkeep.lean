import TraceReplay.Draw.Strict
import TraceReplay.Proofs.Draw.Painting
import TraceReplay.Session.Studio

/-!
# What a canvas always has

On every canvas that actions lead to, the bound target and target 0 are there, targets are listed in ascending
order, and only commands that paint are pending (`Sound`, kept by every action). A target stays, and has its size
until it is resized while it is bound (`Reached.find?_after`). So drawing never falls back on anything, and a
dump lists each target once (`kept_up_from_start`).
-/

namespace TraceReplay

namespace Targets

variable {t : Targets} {id : UInt8} {image : Image}

/-- The targets are listed with ascending ids. -/
def Ascending (t : Targets) : Prop := t.entries.Pairwise (·.1 < ·.1)

theorem mem_insertEntry {e : UInt8 × Image} {entries : List (UInt8 × Image)}
    (mem : e ∈ insertEntry id image entries) : e = (id, image) ∨ e ∈ entries := by
  induction entries with
  | nil => exact .inl (List.mem_singleton.1 mem)
  | cons first rest ih =>
    obtain ⟨id', image'⟩ := first
    rw [insertEntry] at mem
    split at mem
    · exact List.mem_cons.1 mem
    · split at mem
      · rcases List.mem_cons.1 mem with same | later
        · exact .inl same
        · exact .inr (List.mem_cons_of_mem _ later)
      · rcases List.mem_cons.1 mem with same | later
        · exact .inr (List.mem_cons.2 (.inl same))
        · rcases ih later with same | there
          · exact .inl same
          · exact .inr (List.mem_cons_of_mem _ there)

theorem pairwise_insertEntry {entries : List (UInt8 × Image)} (ascending : entries.Pairwise (·.1 < ·.1)) :
    (insertEntry id image entries).Pairwise (·.1 < ·.1) := by
  induction entries with
  | nil => exact List.pairwise_singleton _ _
  | cons first rest ih =>
    obtain ⟨id', image'⟩ := first
    obtain ⟨above, ascending'⟩ := List.pairwise_cons.1 ascending
    rw [insertEntry]
    split
    · rename_i lower
      refine List.pairwise_cons.2 ⟨?_, ascending⟩
      intro e mem
      rcases List.mem_cons.1 mem with rfl | later
      · exact lower
      · exact UInt8.lt_trans lower (above e later)
    · split
      · rename_i same
        subst same
        exact List.pairwise_cons.2 ⟨above, ascending'⟩
      · rename_i notLower other
        refine List.pairwise_cons.2 ⟨?_, ih ascending'⟩
        intro e mem
        rcases mem_insertEntry mem with rfl | there
        · exact UInt8.lt_of_le_of_ne (UInt8.not_lt.1 notLower) (Ne.symm other)
        · exact above e there

theorem Ascending.insert (h : t.Ascending) : (t.insert id image).Ascending := pairwise_insertEntry h

/-- What is listed under an id is what is found there. -/
theorem Ascending.mem_entries_iff (h : t.Ascending) :
    (id, image) ∈ t.entries ↔ t.find? id = some image := by
  obtain ⟨entries⟩ := t
  unfold Ascending at h
  rw [find?]
  induction entries with
  | nil => simp
  | cons first rest ih =>
    obtain ⟨id', image'⟩ := first
    obtain ⟨above, h'⟩ := List.pairwise_cons.1 h
    rw [lookup_cons, List.mem_cons, Prod.mk.injEq]
    split
    · rename_i same
      subst same
      have once : (id, image) ∉ rest := by
        intro mem
        exact UInt8.lt_irrefl id (above (id, image) mem)
      simp [once, eq_comm]
    · rename_i other
      simp only [other, false_and, false_or]
      exact ih h'

end Targets

namespace Canvas

variable {c : Canvas} {id : UInt8} {image : Image}

/-- What holds of a canvas besides that its bound target is there. -/
structure Sound (c : Canvas) : Prop where
  first : ∃ image, c.targets.find? 0 = some image
  ascending : c.targets.Ascending
  pending : ∀ command ∈ c.pending, command.paints = true

theorem sound_ofSize (width height : Nat) : (ofSize width height).Sound where
  first := ⟨.blank width height, rfl⟩
  ascending := List.pairwise_singleton _ _
  pending := by simp [ofSize]

/-- To put an image under an id is sound, if nothing is pending but what paints. -/
theorem Sound.of_insert {d : Canvas} (h : c.Sound) (inserted : d.targets = c.targets.insert id image)
    (pending : ∀ command ∈ d.pending, command.paints = true) : d.Sound := by
  refine ⟨?_, ?_, pending⟩
  · obtain ⟨origin, found⟩ := h.first
    rw [inserted, Targets.find?_insert]
    split
    · exact ⟨image, rfl⟩
    · exact ⟨origin, found⟩
  · rw [inserted]
    exact h.ascending.insert

theorem Sound.flush (h : c.Sound) : c.flush.Sound := by
  have nothing : ∀ command ∈ c.flush.pending, command.paints = true := by simp
  by_cases empty : c.pending.isEmpty
  · rw [Canvas.flush, if_pos empty]
    exact h
  · have inserted : c.flush.targets =
        c.targets.insert c.bound (c.boundImage.paintAll c.pending.toList).1 := by
      rw [Canvas.flush, if_neg empty]
    exact h.of_insert inserted nothing

theorem Sound.enqueue (h : c.Sound) {command : DrawCommand} (paints : command.paints = true) :
    (c.enqueue command).Sound := by
  refine ⟨h.first, h.ascending, ?_⟩
  intro other mem
  rcases Array.mem_push.1 mem with there | rfl
  · exact h.pending other there
  · exact paints

theorem Sound.submit (h : c.Sound) (command : DrawCommand) : (c.submit command).Sound := by
  have nothing : ∀ command ∈ c.flush.pending, command.paints = true := by simp
  cases command with
  | nop => exact h
  | clear color => exact h.enqueue rfl
  | fill x y width height color => exact h.enqueue rfl
  | resize width height => exact h.flush.of_insert rfl nothing
  | bind id => exact h.flush.of_insert rfl nothing
  | present => exact ⟨h.flush.first, h.flush.ascending, nothing⟩

theorem Reached.sound (h : c.Reached) : c.Sound := by
  induction h with
  | ofSize width height => exact sound_ofSize width height
  | submit command _ ih => exact ih.submit command
  | flush _ ih => exact ih.flush
  | capture _ ih => exact ih.flush

theorem Reached.after (h : c.Reached) (action : Action) : (c.after action).Reached := by
  cases action with
  | submit command => exact h.submit command
  | flush => exact h.flush
  | capture => exact h.capture

theorem Reached.afterAll (h : c.Reached) (actions : List Action) : (actions.foldl Canvas.after c).Reached := by
  induction actions generalizing c with
  | nil => exact h
  | cons action actions ih => exact ih (h.after action)

/-- Painting gives no target another size. -/
theorem HasBound.find?_flush (h : c.HasBound) (found : c.targets.find? id = some image) :
    ∃ image', c.flush.targets.find? id = some image' ∧ image'.width = image.width ∧
      image'.height = image.height := by
  have painted := h.painted_flush
  by_cases bound : id = c.bound
  · subst bound
    obtain ⟨before, image', found', there, width, height, -⟩ := painted.bound
    obtain rfl := Option.some.inj (found.symm.trans found')
    exact ⟨image', there, width, height⟩
  · exact ⟨image, (painted.others id bound).trans found, rfl, rfl⟩

/-- A target with the size that it had, or with the new one if it is bound and resized. -/
def KeepsSize (c : Canvas) (action : Action) (id : UInt8) (before after : Image) : Prop :=
  (after.width = before.width ∧ after.height = before.height) ∨
    ∃ width height : UInt16, action = .submit (.resize width height) ∧ id = c.bound ∧
      after.width = width.toNat ∧ after.height = height.toNat

/-- A target stays a target. -/
theorem HasBound.find?_after (h : c.HasBound) (action : Action) (found : c.targets.find? id = some image) :
    ∃ image', (c.after action).targets.find? id = some image' ∧ c.KeepsSize action id image image' := by
  obtain ⟨painted, there, size⟩ := h.find?_flush found
  cases action with
  | flush => exact ⟨painted, there, .inl size⟩
  | capture => exact ⟨painted, there, .inl size⟩
  | submit command =>
    cases command with
    | nop => exact ⟨image, found, .inl ⟨rfl, rfl⟩⟩
    | clear color => exact ⟨image, found, .inl ⟨rfl, rfl⟩⟩
    | fill x y width height color => exact ⟨image, found, .inl ⟨rfl, rfl⟩⟩
    | present => exact ⟨painted, there, .inl size⟩
    | bind other =>
      have bound : (c.after (.submit (.bind other))).targets.find? id =
          if id = other then some ((c.flush.targets.find? other).getD c.flush.blank)
          else c.flush.targets.find? id := Targets.find?_insert ..
      refine ⟨painted, ?_, .inl size⟩
      rw [bound]
      split
      · rename_i same
        rw [← same, there]
        rfl
      · exact there
    | resize width height =>
      have resized : (c.after (.submit (.resize width height))).targets.find? id =
          if id = c.flush.bound then some (.blank width.toNat height.toNat)
          else c.flush.targets.find? id := Targets.find?_insert ..
      rw [resized, bound_flush]
      by_cases bound : id = c.bound
      · rw [if_pos bound]
        exact ⟨_, rfl, .inr ⟨width, height, rfl, bound, rfl, rfl⟩⟩
      · rw [if_neg bound]
        exact ⟨painted, there, .inl size⟩

/-- However many actions follow. -/
theorem Reached.find?_afterAll (h : c.Reached) (actions : List Action)
    (found : ∃ image, c.targets.find? id = some image) :
    ∃ image, (actions.foldl Canvas.after c).targets.find? id = some image := by
  induction actions generalizing c with
  | nil => exact found
  | cons action actions ih =>
    obtain ⟨image, found⟩ := found
    obtain ⟨image', there, -⟩ := h.hasBound.find?_after action found
    exact ih (h.after action) ⟨image', there⟩

/-- Where all commands paint there is nothing to pass over. -/
theorem paintAllOnly?_eq {commands : List DrawCommand} (paint : ∀ command ∈ commands, command.paints = true)
    (i : Image) : i.paintAllOnly? commands = some (i.paintAll commands) := by
  rw [Image.paintAllOnly?, Image.paintAll]
  generalize (i, 0) = start
  induction commands generalizing start with
  | nil => rfl
  | cons command commands ih =>
    obtain ⟨i, drawn⟩ := start
    have first : i.paintOnly? command = some (i.paint command) := if_pos (paint command List.mem_cons_self)
    rw [List.foldlM_cons]
    simp only [first]
    exact ih (fun other mem => paint other (List.mem_cons_of_mem _ mem)) _

/-- A flush falls back on nothing. -/
theorem Sound.flushStrict?_eq (h : c.Sound) (bound : c.HasBound) : c.flushStrict? = some c.flush := by
  obtain ⟨before, found⟩ := bound
  have image : c.boundImage = before := by
    rw [boundImage, found]
    rfl
  have paint : ∀ command ∈ c.pending.toList, command.paints = true := by
    intro command mem
    exact h.pending command (Array.mem_toList_iff.1 mem)
  rw [flushStrict?, Canvas.flush]
  split
  · rfl
  · simp only [found, Option.bind_eq_bind, Option.bind_some, paintAllOnly?_eq paint, image]
    rfl

theorem Sound.captureStrict?_eq (h : c.Sound) (bound : c.HasBound) :
    c.captureStrict? = some c.capture := by
  obtain ⟨image, found⟩ := bound.flush
  rw [captureStrict?, h.flushStrict?_eq bound, capture, boundImage, found]
  simp only [Option.bind_eq_bind, Option.bind_some, found]
  rfl

theorem paints_iff {command : DrawCommand} :
    command.paints = true ↔
      (∃ color, command = .clear color) ∨ ∃ x y width height color, command = .fill x y width height color := by
  cases command <;> simp [DrawCommand.paints]

/-- What is known of a canvas, whatever was done with it. -/
structure KeptUp (c : Canvas) : Prop where
  bound : ∃ image, c.targets.find? c.bound = some image
  first : ∃ image, c.targets.find? 0 = some image
  pending : ∀ command ∈ c.pending, (∃ color, command = .clear color) ∨
    ∃ x y width height color, command = .fill x y width height color
  /-- A target never disappears. -/
  lasting : ∀ id (actions : List Action), (∃ image, c.targets.find? id = some image) →
    ∃ image, (actions.foldl Canvas.after c).targets.find? id = some image
  /-- Its size changes only when it is resized while it is bound. -/
  sizes : ∀ id image action, c.targets.find? id = some image →
    ∃ image', (c.after action).targets.find? id = some image' ∧ c.KeepsSize action id image image'
  /-- Neither a flush nor a capture falls back on anything. -/
  strict : c.flushStrict? = some c.flush ∧ c.captureStrict? = some c.capture
  /-- A dump lists the targets that there are, by ascending ids, the bound one among them. -/
  listed : ∃ targets : List (UInt8 × Image),
    c.stateTree = .record [("bound_target", .number c.bound.toNat),
      ("targets", .list (targets.map fun (id, image) => targetTree id image)),
      ("pending", .list (c.pending.toList.map DrawCommand.tree)),
      ("pixels_drawn", .number c.pixelsDrawn), ("presents", .number c.presents)] ∧
    targets.Pairwise (·.1 < ·.1) ∧
    (∀ id image, (id, image) ∈ targets ↔ c.targets.find? id = some image) ∧
    c.bound ∈ targets.map Prod.fst
  /-- To dump a canvas leaves it as it is. -/
  dump : ∀ s : Studio, s.canvas = c → s.dump.2.canvas = c

/-- A dump leaves the canvas of a studio alone. -/
theorem canvas_dump (s : Studio) : s.dump.2.canvas = s.canvas := by
  have told : ∀ (t : Studio) (m : Message), (t.tell m).canvas = t.canvas := by
    intro t m
    cases m with
    | printed line => rfl
    | noted line => rfl
    | logged level text =>
      rw [Studio.tell]
      split
      · split <;> rfl
      · rfl
  have written : ∀ pieces, (s.writeDump pieces).2.canvas = s.canvas := by
    intro pieces
    rw [Studio.writeDump]
    split <;> rfl
  rw [Studio.dump]
  dsimp only
  split
  · exact written _
  · exact (told _ _).trans (written _)

/-- Whatever is done with a canvas from its start on, it is kept up. -/
theorem kept_up_from_start (width height : Nat) (actions : List Action) :
    KeptUp (actions.foldl Canvas.after (ofSize width height)) := by
  have reached : (actions.foldl Canvas.after (ofSize width height)).Reached :=
    Reached.afterAll (.ofSize width height) actions
  revert reached
  generalize actions.foldl Canvas.after (ofSize width height) = c
  intro reached
  have sound := reached.sound
  obtain ⟨image, found⟩ := reached.hasBound
  constructor
  case bound => exact ⟨image, found⟩
  case first => exact sound.first
  case pending =>
    intro command mem
    exact paints_iff.1 (sound.pending command mem)
  case lasting =>
    intro id actions there
    exact reached.find?_afterAll actions there
  case sizes =>
    intro id image action there
    exact reached.hasBound.find?_after action there
  case strict => exact ⟨sound.flushStrict?_eq reached.hasBound, sound.captureStrict?_eq reached.hasBound⟩
  case listed =>
    refine ⟨c.targets.entries, rfl, sound.ascending, fun id image => sound.ascending.mem_entries_iff, ?_⟩
    exact List.mem_map.2 ⟨(c.bound, image), sound.ascending.mem_entries_iff.2 found, rfl⟩
  case dump =>
    rintro s rfl
    exact canvas_dump s

end Canvas

end TraceReplay
