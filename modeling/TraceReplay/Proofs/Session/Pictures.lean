import TraceReplay.Draw.EagerCanvas
import TraceReplay.Replay.Player

/-!
# The pictures of a trace

Which pictures a replay may take is said by the calls, the selection and a canvas without a buffer
(`pictures`), without a word about files, outputs or legs. The numbers of calls increase along a trace,
so two pictures share a number only if their calls are neighbours, and then both show the same unless
the first was taken before the effect of its call (`pictures_pairwise`). Pictures of frames have numbers
of their own (`pictures_pairwise_of_frames`).
-/

namespace TraceReplay

/-- What a snapshot step looks at: the number it is filed under, whether it comes before the effect of
its call, and what the canvas shows then. -/
structure Picture where
  number : UInt32
  early : Bool
  image : Image

/-- The pictures that a replay takes of a call, if what is selected is said by `selects`: one of a
selected call, before its effect if it switches the target and else after it, if there is one. -/
def Call.pictures (selects : Call → Bool) (e : EagerCanvas) (c : Call) : List Picture :=
  (if selects c && c.swapsTarget then [⟨Player.numberBefore c, true, e.capture⟩] else []) ++
    match e.apply c.payload with
    | .ok after => if selects c && !c.swapsTarget then [⟨c.no, false, after.capture⟩] else []
    | .error _ => []

/-- The pictures that a replay takes of calls, up to a payload that is no command. -/
def pictures (selects : Call → Bool) : EagerCanvas → List Call → List Picture
  | _, [] => []
  | e, c :: cs => c.pictures selects e ++
    match e.apply c.payload with
    | .ok after => pictures selects after cs
    | .error _ => []

namespace Player

/-- The number before a target switch is that of the call or the one before. -/
theorem numberBefore_le (c : Call) :
    (numberBefore c).toNat ≤ c.no.toNat ∧ c.no.toNat ≤ (numberBefore c).toNat + 1 := by
  unfold numberBefore
  split
  · omega
  · split
    · rename_i zero
      rw [zero]
      decide
    · rename_i positive
      have : c.no.toNat ≠ 0 := fun zero => positive (UInt32.toNat_inj.1 zero)
      rw [UInt32.toNat_sub_of_le _ _ (UInt32.le_iff_toNat_le.2 (by
        show 1 ≤ c.no.toNat
        omega))]
      show c.no.toNat - 1 ≤ c.no.toNat ∧ c.no.toNat ≤ c.no.toNat - 1 + 1
      omega

end Player

section Pictures

variable {selects : Call → Bool} {e : EagerCanvas} {c : Call} {cs : List Call} {pic : Picture}

/-- The picture of a selected call is that before its effect, or that after it. -/
theorem Call.mem_pictures (mem : pic ∈ c.pictures selects e) : selects c = true ∧
    (pic = ⟨Player.numberBefore c, true, e.capture⟩ ∨
      ∃ after, e.apply c.payload = .ok after ∧ pic = ⟨c.no, false, after.capture⟩) := by
  rw [Call.pictures, List.mem_append] at mem
  rcases mem with mem | mem
  · split at mem
    · rename_i wanted
      exact ⟨(Bool.and_eq_true_iff.1 wanted).1, .inl (List.mem_singleton.1 mem)⟩
    · cases mem
  · split at mem
    · rename_i after applied
      split at mem
      · rename_i wanted
        exact ⟨(Bool.and_eq_true_iff.1 wanted).1, .inr ⟨after, applied, List.mem_singleton.1 mem⟩⟩
      · cases mem
    · cases mem

/-- A picture is filed under the number of its call, or under the number before. -/
theorem exists_of_mem_pictures (mem : pic ∈ pictures selects e cs) :
    ∃ c ∈ cs, selects c = true ∧ (pic.number = c.no ∨ pic.number = Player.numberBefore c) := by
  induction cs generalizing e with
  | nil => cases mem
  | cons c cs ih =>
    rw [pictures, List.mem_append] at mem
    rcases mem with mem | mem
    · obtain ⟨selected, rfl | ⟨_, _, rfl⟩⟩ := Call.mem_pictures mem
      · exact ⟨c, List.mem_cons_self, selected, .inr rfl⟩
      · exact ⟨c, List.mem_cons_self, selected, .inl rfl⟩
    · split at mem
      · obtain ⟨d, mem, number⟩ := ih mem
        exact ⟨d, List.mem_cons_of_mem c mem, number⟩
      · cases mem

/-- There is at most one picture of a call. -/
theorem Call.length_pictures_le (selects : Call → Bool) (e : EagerCanvas) (c : Call) :
    (c.pictures selects e).length ≤ 1 := by
  rw [Call.pictures]
  cases e.apply c.payload <;> cases selects c <;> cases c.swapsTarget <;> simp

theorem Call.pictures_pairwise (R : Picture → Picture → Prop) :
    (c.pictures selects e).Pairwise R := by
  have short := c.length_pictures_le selects e
  cases all : c.pictures selects e with
  | nil => exact .nil
  | cons pic rest =>
    rw [all] at short
    have none : rest = [] := List.length_eq_zero_iff.1 (Nat.le_zero.1 (Nat.succ_le_succ_iff.1 short))
    rw [none]
    exact List.pairwise_singleton R pic

/-- The only picture that calls with greater numbers may file under a number shows what there is
before them. -/
theorem image_eq_of_number_eq {n : UInt32} (increasing : cs.Pairwise (·.no < ·.no))
    (greater : ∀ c ∈ cs, n < c.no) (mem : pic ∈ pictures selects e cs) (number : pic.number = n) :
    pic.image = e.capture := by
  cases cs with
  | nil => cases mem
  | cons c cs =>
    have next := UInt32.lt_iff_toNat_lt.1 (greater c List.mem_cons_self)
    rw [pictures, List.mem_append] at mem
    rcases mem with mem | mem
    · obtain ⟨_, rfl | ⟨_, _, rfl⟩⟩ := Call.mem_pictures mem
      · rfl
      · exact absurd number.symm (UInt32.ne_of_lt (greater c List.mem_cons_self))
    · -- the calls after the first come too late
      split at mem
      · obtain ⟨d, mem, _, filed⟩ := exists_of_mem_pictures mem
        have later := UInt32.lt_iff_toNat_lt.1 ((List.pairwise_cons.1 increasing).1 d mem)
        have back := (Player.numberBefore_le d).2
        rcases filed with filed | filed
        · rw [← number, filed] at next
          omega
        · rw [← number, filed] at next
          omega
      · cases mem

/-- Of two pictures under one number, the first not taken before the effect of its call, both show the
same. -/
theorem pictures_pairwise (increasing : cs.Pairwise (·.no < ·.no)) (e : EagerCanvas) :
    (pictures selects e cs).Pairwise fun a b =>
      a.number = b.number → a.early = false → a.image = b.image := by
  induction cs generalizing e with
  | nil => exact .nil
  | cons c cs ih =>
    obtain ⟨greater, increasing⟩ := List.pairwise_cons.1 increasing
    rw [pictures, List.pairwise_append]
    refine ⟨Call.pictures_pairwise _, ?_, ?_⟩
    · split
      · exact ih increasing _
      · exact .nil
    · intro a mem b mem' number late
      split at mem'
      · rename_i after applied
        obtain ⟨_, rfl | ⟨after', applied', rfl⟩⟩ := Call.mem_pictures mem
        · cases late
        · obtain rfl := Except.ok.inj (applied.symm.trans applied')
          exact (image_eq_of_number_eq increasing greater mem' number.symm).symm
      · cases mem'

/-- A picture of a call that ends a frame has the number of the call. -/
theorem exists_of_mem_pictures_of_frames (frames : ∀ c, selects c = true → c.endsFrame = true)
    (mem : pic ∈ pictures selects e cs) : ∃ c ∈ cs, pic.number = c.no := by
  obtain ⟨c, mem, selected, number | number⟩ := exists_of_mem_pictures mem
  · exact ⟨c, mem, number⟩
  · rw [Player.numberBefore, if_pos (frames c selected)] at number
    exact ⟨c, mem, number⟩

/-- If only calls that end frames are selected, all pictures have different numbers. -/
theorem pictures_pairwise_of_frames (increasing : cs.Pairwise (·.no < ·.no))
    (frames : ∀ c, selects c = true → c.endsFrame = true) (e : EagerCanvas) :
    (pictures selects e cs).Pairwise (·.number < ·.number) := by
  induction cs generalizing e with
  | nil => exact .nil
  | cons c cs ih =>
    obtain ⟨greater, increasing⟩ := List.pairwise_cons.1 increasing
    rw [pictures, List.pairwise_append]
    refine ⟨Call.pictures_pairwise _, ?_, ?_⟩
    · split
      · exact ih increasing _
      · exact .nil
    · intro a mem b mem'
      split at mem'
      · obtain ⟨d, later, number'⟩ := exists_of_mem_pictures_of_frames frames mem'
        have number : a.number = c.no := by
          obtain ⟨selected, rfl | ⟨_, _, rfl⟩⟩ := Call.mem_pictures mem
          · exact if_pos (frames c selected)
          · rfl
        rw [number, number']
        exact greater d later
      · cases mem'

end Pictures

namespace EagerCanvas

/-- No image of the canvas has bytes besides its pixels. -/
def IsTrim (e : EagerCanvas) : Prop :=
  ∀ id image, e.targets.find? id = some image → image.surplus = []

variable {e : EagerCanvas}

theorem isTrim_ofSize (width height : Nat) : (ofSize width height).IsTrim := by
  intro id image found
  have blank := (Targets.lookup_cons 0 id (.blank width height) []).symm.trans found
  split at blank
  · obtain rfl := Option.some.inj blank
    rfl
  · cases blank

/-- What is captured are pixels only. -/
theorem IsTrim.surplus_capture (h : e.IsTrim) : e.capture.surplus = [] := by
  rw [capture, boundImage]
  cases found : e.targets.find? e.bound with
  | none => rfl
  | some image => exact h e.bound image found

theorem IsTrim.insert (h : e.IsTrim) {id : UInt8} {image : Image} (trim : image.surplus = []) :
    ∀ j other, (e.targets.insert id image).find? j = some other → other.surplus = [] := by
  intro j other found
  rw [Targets.find?_insert] at found
  split at found
  · obtain rfl := Option.some.inj found
    exact trim
  · exact h j other found

/-- Painting changes pixels only. -/
theorem surplus_paint (image : Image) (command : DrawCommand) :
    (image.paint command).1.surplus = image.surplus := by
  cases command <;> rfl

theorem IsTrim.submit (h : e.IsTrim) (command : DrawCommand) : (e.submit command).IsTrim := by
  cases command with
  | nop | present => exact h
  | clear color => exact h.insert ((surplus_paint _ _).trans h.surplus_capture)
  | fill x y width height color => exact h.insert ((surplus_paint _ _).trans h.surplus_capture)
  | resize width height => exact h.insert rfl
  | bind id =>
    refine h.insert ?_
    cases found : e.targets.find? id with
    | none => rfl
    | some image => exact h id image found

end EagerCanvas

/-- So all pictures are pixels only. -/
theorem surplus_of_mem_pictures {selects : Call → Bool} {e : EagerCanvas} {cs : List Call}
    {pic : Picture} (trim : e.IsTrim) (mem : pic ∈ pictures selects e cs) : pic.image.surplus = [] := by
  induction cs generalizing e with
  | nil => cases mem
  | cons c cs ih =>
    have kept : ∀ after, e.apply c.payload = .ok after → after.IsTrim := by
      intro after applied
      rw [EagerCanvas.apply] at applied
      cases decoded : DrawCommand.decode c.payload with
      | error cause =>
        rw [decoded] at applied
        cases applied
      | ok command =>
        rw [decoded] at applied
        obtain rfl := Except.ok.inj applied
        exact trim.submit command
    rw [pictures, List.mem_append] at mem
    rcases mem with mem | mem
    · obtain ⟨_, rfl | ⟨after, applied, rfl⟩⟩ := Call.mem_pictures mem
      · exact trim.surplus_capture
      · exact (kept after applied).surplus_capture
    · split at mem
      · rename_i after applied
        exact ih (kept after applied) mem
      · cases mem

end TraceReplay
