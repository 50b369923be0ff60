import Mathlib
import TraceReplay.Draw.Stepwise

/-!
# What painting does to the pixels

A pixel has the colour of the last command that covers it, or the one that it had
(`Image.pixel?_paintAll`), and as many pixels are counted as each command covers inside of the image
(`Image.paintAll_snd`). Setting a span is a write at each index from its start on, so a filled box is
found pixel by pixel (`Image.pixel?_fillBox`), and painting is read off it command by command. Clipping
keeps every index inside of the image, so painting one pixel after the other with all bounds checked
comes to the same (`Canvas.flushEach?_eq`).
-/

namespace TraceReplay

namespace Image

variable {i : Image} {pixels : Array Color} {color : Color} {start n m x y u v stride k : Nat}

/-- The pixels of a span have the colour, those before and behind it are as they were. -/
theorem getElem?_setSpan :
    (setSpan pixels start color n)[k]? =
      if start ≤ k ∧ k < start + n then pixels[k]?.map fun _ => color else pixels[k]? := by
  induction n generalizing pixels start with
  | zero => rw [setSpan, if_neg (by omega)]
  | succ n ih =>
    rw [setSpan, ih, Array.getElem?_setIfInBounds]
    by_cases first : start = k
    · subst first
      have behind : ¬ (start + 1 ≤ start ∧ start < start + 1 + n) := by omega
      have whole : start ≤ start ∧ start < start + (n + 1) := by omega
      rw [if_neg behind, if_pos rfl, if_pos whole]
      split
      · rename_i bound
        rw [Array.getElem?_eq_getElem bound]
        rfl
      · rename_i bound
        rw [Array.getElem?_eq_none (Nat.le_of_not_lt bound)]
        rfl
    · rw [if_neg first]
      by_cases behind : start + 1 ≤ k ∧ k < start + 1 + n
      · rw [if_pos behind, if_pos (by omega)]
      · rw [if_neg behind, if_neg (by omega)]

/-- An index lies in the span of a row if it is one of this row, between the ends of the span. -/
theorem index_mem_span_iff (inside : u < stride) (fits : x + n ≤ stride) :
    y * stride + x ≤ v * stride + u ∧ v * stride + u < y * stride + x + n ↔
      v = y ∧ x ≤ u ∧ u < x + n := by
  rcases Nat.lt_trichotomy v y with above | rfl | below
  · have : (v + 1) * stride ≤ y * stride := Nat.mul_le_mul_right _ above
    rw [Nat.succ_mul] at this
    omega
  · omega
  · have : (y + 1) * stride ≤ v * stride := Nat.mul_le_mul_right _ below
    rw [Nat.succ_mul] at this
    omega

theorem getElem?_setRows (inside : u < stride) (fits : x + n ≤ stride) :
    (setRows pixels stride x n color y m)[v * stride + u]? =
      if (x ≤ u ∧ u < x + n) ∧ y ≤ v ∧ v < y + m then pixels[v * stride + u]?.map fun _ => color
      else pixels[v * stride + u]? := by
  induction m generalizing pixels y with
  | zero => rw [setRows, if_neg (by omega)]
  | succ m ih =>
    rw [setRows, ih, getElem?_setSpan]
    simp only [index_mem_span_iff inside fits]
    by_cases first : v = y ∧ x ≤ u ∧ u < x + n
    · rw [if_pos first, if_neg (by omega), if_pos (by omega)]
    · rw [if_neg first]
      by_cases behind : (x ≤ u ∧ u < x + n) ∧ y + 1 ≤ v ∧ v < y + 1 + m
      · rw [if_pos behind, if_pos (by omega)]
      · rw [if_neg behind, if_neg (by omega)]

theorem pixel?_fillBox {x0 y0 x1 y1 : Nat} (left : x0 ≤ i.width) (right : x1 ≤ i.width) :
    (i.fillBox x0 y0 x1 y1 color).pixel? x y =
      if (x0 ≤ x ∧ x < x1) ∧ y0 ≤ y ∧ y < y1 then (i.pixel? x y).map fun _ => color
      else i.pixel? x y := by
  by_cases inside : x < i.width ∧ y < i.height
  · obtain ⟨column, row⟩ := inside
    have filled : (i.fillBox x0 y0 x1 y1 color).pixel? x y =
        (setRows i.pixels i.width x0 (x1 - x0) color y0 (y1 - y0))[y * i.width + x]? :=
      pixel?_of_inside (i := i.fillBox x0 y0 x1 y1 color) column row
    rw [filled, getElem?_setRows column (by omega), pixel?_of_inside column row]
    by_cases covered : (x0 ≤ x ∧ x < x1) ∧ y0 ≤ y ∧ y < y1
    · rw [if_pos covered, if_pos (by omega)]
    · rw [if_neg covered, if_neg (by omega)]
  · have none : (i.fillBox x0 y0 x1 y1 color).pixel? x y = none := pixel?_of_outside inside
    rw [none, pixel?_of_outside inside]
    simp

theorem pixel?_clearTo : (i.clearTo color).pixel? x y = (i.pixel? x y).map fun _ => color := by
  by_cases inside : x < i.width ∧ y < i.height
  · obtain ⟨column, row⟩ := inside
    have bound := i.index_lt column row
    have found := (pixel?_of_inside column row).trans (Array.getElem?_eq_getElem bound)
    rw [i.size_eq] at bound
    have cleared : (i.clearTo color).pixel? x y =
        (Array.replicate (i.width * i.height) color)[y * i.width + x]? :=
      pixel?_of_inside (i := i.clearTo color) column row
    rw [cleared, found, Array.getElem?_replicate, if_pos bound]
    rfl
  · rw [pixel?_of_outside inside]
    exact pixel?_of_outside (i := i.clearTo color) inside

end Image

namespace DrawCommand

/-- The colour of the last command that covers the pixel in column `x` of row `y`. -/
def lastColorAt? (commands : List DrawCommand) (x y : Nat) : Option Color :=
  commands.reverse.findSome? (colorAt? x y)

/-- The pixels that a command covers in an image of a size. -/
def covered (width height : Nat) (command : DrawCommand) : Finset (Nat × Nat) :=
  (Finset.range width ×ˢ Finset.range height).filter fun p => (command.colorAt? p.1 p.2).isSome

theorem lastColorAt?_concat (commands : List DrawCommand) (command : DrawCommand) (x y : Nat) :
    lastColorAt? (commands ++ [command]) x y =
      (command.colorAt? x y).or (lastColorAt? commands x y) := by
  rw [lastColorAt?, List.reverse_concat, List.findSome?_cons]
  cases command.colorAt? x y <;> rfl

/-- A clear covers every pixel. -/
theorem card_covered_clear (width height : Nat) (color : Color) :
    (covered width height (clear color)).card = width * height := by
  have all : covered width height (clear color) = Finset.range width ×ˢ Finset.range height :=
    Finset.filter_true_of_mem fun _ _ => rfl
  rw [all, Finset.card_product, Finset.card_range, Finset.card_range]

theorem isSome_colorAt?_fill {x y : Nat} {left top width height : UInt16} {color : Color} :
    ((fill left top width height color).colorAt? x y).isSome = true ↔
      left.toNat ≤ x ∧ x < left.toNat + width.toNat ∧ top.toNat ≤ y ∧
        y < top.toNat + height.toNat := by
  rw [colorAt?]
  split
  · rename_i covers
    exact iff_of_true rfl covers
  · rename_i covers
    exact iff_of_false Bool.false_ne_true covers

/-- A fill covers what is left of its rectangle between the edges of the image. -/
theorem card_covered_fill (w h : Nat) (left top width height : UInt16) (color : Color) :
    (covered w h (fill left top width height color)).card =
      (min (left.toNat + width.toNat) w - min left.toNat w) *
        (min (top.toNat + height.toNat) h - min top.toNat h) := by
  have box : covered w h (fill left top width height color) =
      Finset.Ico (min left.toNat w) (min (left.toNat + width.toNat) w) ×ˢ
        Finset.Ico (min top.toNat h) (min (top.toNat + height.toNat) h) := by
    ext ⟨x, y⟩
    simp only [covered, Finset.mem_filter, Finset.mem_product, Finset.mem_range, Finset.mem_Ico,
      isSome_colorAt?_fill]
    omega
  rw [box, Finset.card_product, Nat.card_Ico, Nat.card_Ico]

/-- What does not paint covers nothing. -/
theorem card_covered_of_colorAt? {width height : Nat} {command : DrawCommand}
    (none : ∀ x y, command.colorAt? x y = none) : (covered width height command).card = 0 := by
  rw [Finset.card_eq_zero, covered, Finset.filter_eq_empty_iff]
  intro p _
  rw [none]
  exact Bool.false_ne_true

end DrawCommand

namespace Image

variable {i : Image} {x y : Nat}

theorem width_paint (command : DrawCommand) : (i.paint command).1.width = i.width := by
  cases command <;> rfl

theorem height_paint (command : DrawCommand) : (i.paint command).1.height = i.height := by
  cases command <;> rfl

/-- A command gives its colour to the pixels that it covers, and only to them. -/
theorem pixel?_paint (command : DrawCommand) :
    (i.paint command).1.pixel? x y =
      (i.pixel? x y).map fun old => (command.colorAt? x y).getD old := by
  by_cases inside : x < i.width ∧ y < i.height
  case neg =>
    have outside : ¬ (x < (i.paint command).1.width ∧ y < (i.paint command).1.height) := by
      rwa [width_paint, height_paint]
    rw [pixel?_of_outside inside, pixel?_of_outside outside]
    rfl
  cases command with
  | clear color => exact pixel?_clearTo
  | fill left top width height color =>
    rw [paint, pixel?_fillBox (Nat.min_le_right ..) (Nat.min_le_right ..), DrawCommand.colorAt?]
    by_cases covers : left.toNat ≤ x ∧ x < left.toNat + width.toNat ∧ top.toNat ≤ y ∧
        y < top.toNat + height.toNat
    · rw [if_pos covers, if_pos (by omega)]
      rfl
    · rw [if_neg covers, if_neg (by omega)]
      exact Option.map_id'.symm
  | nop | resize | bind | present => exact Option.map_id'.symm

/-- And it counts them. -/
theorem paint_snd (command : DrawCommand) :
    (i.paint command).2 = (command.covered i.width i.height).card := by
  cases command with
  | clear color => exact (DrawCommand.card_covered_clear ..).symm
  | fill left top width height color => exact (DrawCommand.card_covered_fill ..).symm
  | nop | resize | bind | present =>
    exact (DrawCommand.card_covered_of_colorAt? fun _ _ => rfl).symm

variable (commands : List DrawCommand)

theorem size_paintAll :
    (i.paintAll commands).1.width = i.width ∧ (i.paintAll commands).1.height = i.height := by
  induction commands using List.reverseRecOn with
  | nil => exact ⟨rfl, rfl⟩
  | append_singleton commands command ih =>
    rw [paintAll_concat, width_paint, height_paint]
    exact ih

/-- A pixel has the colour of the last command that covers it, or else the one that it had. -/
theorem pixel?_paintAll :
    (i.paintAll commands).1.pixel? x y =
      (i.pixel? x y).map fun old => (DrawCommand.lastColorAt? commands x y).getD old := by
  induction commands using List.reverseRecOn with
  | nil => exact Option.map_id'.symm
  | append_singleton commands command ih =>
    rw [paintAll_concat, pixel?_paint, ih, Option.map_map, DrawCommand.lastColorAt?_concat]
    congr 1
    funext old
    cases command.colorAt? x y <;> rfl

/-- Pixels are counted once for each command that covers them. -/
theorem paintAll_snd :
    (i.paintAll commands).2 =
      (commands.map fun command => (command.covered i.width i.height).card).sum := by
  induction commands using List.reverseRecOn with
  | nil => rfl
  | append_singleton commands command ih =>
    obtain ⟨width, height⟩ := size_paintAll (i := i) commands
    rw [paintAll_concat, paint_snd, ih, width, height, List.map_append, List.sum_append]
    rfl

section Stepwise

variable {color : Color} {n m : Nat}

theorem setPixel?_eq (column : x < i.width) (row : y < i.height) :
    i.setPixel? x y color = some (i.withPixels (i.pixels.setIfInBounds (y * i.width + x) color)
      Array.size_setIfInBounds) := by
  have bound := i.index_lt column row
  rw [setPixel?, dif_pos ⟨column, row⟩]
  simp only [Array.setIfInBounds, bound, dif_pos]

/-- Inside of the image, a row can be set pixel by pixel. -/
theorem setEach?_eq (fits : x + n ≤ i.width) (row : y < i.height) :
    i.setEach? y x n color = some (i.withPixels (setSpan i.pixels (y * i.width + x) color n)
      (size_setSpan ..)) := by
  induction n generalizing i x with
  | zero => rfl
  | succ n ih =>
    rw [setEach?, List.range'_succ, List.foldlM_cons, setPixel?_eq (by omega) row]
    exact ih (i := i.withPixels _ Array.size_setIfInBounds) (by change x + 1 + n ≤ i.width; omega) row

/-- And a box row by row. -/
theorem foldlM_setEach?_eq (fits : x + n ≤ i.width) (below : y + m ≤ i.height) :
    (List.range' y m).foldlM (fun i y => i.setEach? y x n color) i =
      some (i.withPixels (setRows i.pixels i.width x n color y m) (size_setRows ..)) := by
  induction m generalizing i y with
  | zero => rfl
  | succ m ih =>
    rw [List.range'_succ, List.foldlM_cons, setEach?_eq fits (by omega)]
    exact ih (i := i.withPixels _ (size_setSpan ..)) fits (by change y + 1 + m ≤ i.height; omega)

theorem fillEach?_eq {x0 y0 x1 y1 : Nat} (left : x0 ≤ i.width) (right : x1 ≤ i.width)
    (top : y0 ≤ i.height) (bottom : y1 ≤ i.height) :
    i.fillEach? x0 y0 x1 y1 color = some (i.fillBox x0 y0 x1 y1 color) :=
  foldlM_setEach?_eq (by omega) (by omega)

theorem sum?_of_short (a b : UInt16) : sum? a.toNat b.toNat = some (a.toNat + b.toNat) := by
  have := a.toNat_lt
  have := b.toNat_lt
  exact if_pos (by rw [UInt32.size]; omega)

theorem difference?_of_le {a b : Nat} (le : b ≤ a) : difference? a b = some (a - b) := if_pos le

/-- Clipped to the image, no rectangle has a pixel outside of it or ends before it starts. -/
theorem paintEach?_eq (command : DrawCommand) : i.paintEach? command = some (i.paint command) := by
  cases command with
  | fill left top width height color =>
    have columns : min left.toNat i.width ≤ min (left.toNat + width.toNat) i.width := by omega
    have rows : min top.toNat i.height ≤ min (top.toNat + height.toNat) i.height := by omega
    simp only [paintEach?, sum?_of_short, Option.bind_eq_bind, Option.bind_some,
      fillEach?_eq (Nat.min_le_right ..) (Nat.min_le_right ..) (Nat.min_le_right ..)
        (Nat.min_le_right ..), difference?_of_le columns, difference?_of_le rows]
    rfl
  | nop | clear | resize | bind | present => rfl

end Stepwise

end Image

namespace Canvas

variable {c : Canvas}

/-- A flush can be done pixel by pixel, with all bounds checked. -/
theorem flushEach?_eq (c : Canvas) : c.flushEach? = some c.flush := by
  rw [flushEach?, flush]
  split
  · rfl
  · simp only [Image.paintEach?_eq]
    exact congrArg (· >>= _) (List.foldlM_pure ..)

/-- The canvases that operations lead to. -/
inductive Reached : Canvas → Prop
  | ofSize (width height : Nat) : Reached (.ofSize width height)
  | submit {c : Canvas} (command : DrawCommand) : Reached c → Reached (c.submit command)
  | flush {c : Canvas} : Reached c → Reached c.flush
  | capture {c : Canvas} : Reached c → Reached c.capture.2

/-- The bound target is there. -/
def HasBound (c : Canvas) : Prop := ∃ image, c.targets.find? c.bound = some image

theorem hasBound_ofSize (width height : Nat) : (ofSize width height).HasBound := ⟨_, rfl⟩

/-- What is put under the bound id is found there. -/
theorem hasBound_of_insert {targets : Targets} {image : Image}
    (inserted : c.targets = targets.insert c.bound image) : c.HasBound := by
  refine ⟨image, ?_⟩
  rw [inserted, Targets.find?_insert, if_pos rfl]

theorem HasBound.flush (h : c.HasBound) : c.flush.HasBound := by
  rw [Canvas.flush]
  split
  · exact h
  · exact hasBound_of_insert rfl

theorem HasBound.submit (h : c.HasBound) (command : DrawCommand) : (c.submit command).HasBound := by
  cases command with
  | nop | clear | fill => exact h
  | resize width height => exact hasBound_of_insert rfl
  | bind id => exact hasBound_of_insert rfl
  | present => exact h.flush

theorem Reached.hasBound (h : c.Reached) : c.HasBound := by
  induction h with
  | ofSize width height => exact hasBound_ofSize width height
  | submit command _ ih => exact ih.submit command
  | flush _ ih => exact ih.flush
  | capture _ ih => exact ih.flush

/-- What a flush does to a canvas. -/
structure Painted (c after : Canvas) : Prop where
  /-- In the bound target each pixel gets the colour of the last pending command that covers it, and
  each pending command counts the pixels that it covers there. -/
  bound : ∃ before image, c.targets.find? c.bound = some before ∧
    after.targets.find? c.bound = some image ∧
    image.width = before.width ∧ image.height = before.height ∧
    (∀ x y, image.pixel? x y = (before.pixel? x y).map fun old =>
      (DrawCommand.lastColorAt? c.pending.toList x y).getD old) ∧
    after.pixelsDrawn = c.pixelsDrawn + (c.pending.toList.map fun command =>
      (command.covered before.width before.height).card).sum
  others : ∀ id, id ≠ c.bound → after.targets.find? id = c.targets.find? id
  pending : after.pending = #[]
  rest : after.bound = c.bound ∧ after.width = c.width ∧ after.height = c.height ∧
    after.presents = c.presents
  /-- No pixel is set outside of the target, and no difference falls below zero. -/
  stepwise : c.flushEach? = some after

theorem HasBound.painted_flush (h : c.HasBound) : c.Painted c.flush := by
  obtain ⟨before, found⟩ := h
  have stepwise := flushEach?_eq c
  by_cases none : c.pending.isEmpty
  · have same : c.flush = c := if_pos none
    have nothing : c.pending = #[] := Array.isEmpty_iff.1 none
    rw [same] at stepwise ⊢
    refine ⟨⟨before, before, found, found, rfl, rfl, fun x y => ?_, ?_⟩, fun _ _ => rfl, nothing,
      ⟨rfl, rfl, rfl, rfl⟩, stepwise⟩
    · rw [nothing]
      exact Option.map_id'.symm
    · rw [nothing]
      rfl
  · have image : c.boundImage = before := by
      rw [boundImage, found]
      rfl
    have painted : c.flush =
        { c with
          targets := c.targets.insert c.bound (before.paintAll c.pending.toList).1
          pending := #[]
          pixelsDrawn := c.pixelsDrawn + (before.paintAll c.pending.toList).2 } := by
      rw [Canvas.flush, if_neg none, image]
    obtain ⟨width, height⟩ := before.size_paintAll c.pending.toList
    rw [painted] at stepwise ⊢
    refine ⟨⟨before, (before.paintAll c.pending.toList).1, found, ?_, width, height,
      fun x y => before.pixel?_paintAll c.pending.toList, ?_⟩, fun id other => ?_, rfl,
      ⟨rfl, rfl, rfl, rfl⟩, stepwise⟩
    · rw [Targets.find?_insert, if_pos rfl]
    · rw [before.paintAll_snd c.pending.toList]
    · rw [Targets.find?_insert, if_neg other]

/-- Whatever is pending on a canvas that operations lead to, a flush paints it into the bound target, the
last command on top, and touches nothing else. -/
theorem painted_flush_of_reached (reached : c.Reached) (commands : Array DrawCommand) :
    Painted { c with pending := commands } { c with pending := commands }.flush :=
  HasBound.painted_flush (c := { c with pending := commands }) reached.hasBound

/-- Three pixels in a row. -/
def strip : Canvas := (ofSize 1 1).submit (.resize 3 1)

/-- A fill past the right and the lower end, one that lies beyond both, one without a width, and one of the
last pixel. -/
def stripCommands : Array DrawCommand :=
  #[.clear ⟨255, 0, 0, 255⟩, .fill 1 0 65535 65535 ⟨0, 0, 255, 255⟩,
    .fill 65535 65535 65535 65535 ⟨0, 255, 0, 255⟩, .fill 2 0 0 1 ⟨0, 255, 0, 255⟩,
    .fill 2 0 1 9 ⟨0, 0, 0, 255⟩]

theorem painted_flush_of_overlap :
    strip.Reached ∧
      { strip with pending := stripCommands }.Painted { strip with pending := stripCommands }.flush ∧
      { strip with pending := stripCommands }.flush.boundImage.bytes =
        [255, 0, 0, 255, 0, 0, 255, 255, 0, 0, 0, 255] ∧
      { strip with pending := stripCommands }.flush.pixelsDrawn = 6 := by
  have reached : strip.Reached := .submit _ (.ofSize 1 1)
  exact ⟨reached, painted_flush_of_reached reached stripCommands, by decide, by decide⟩

end Canvas

end TraceReplay
