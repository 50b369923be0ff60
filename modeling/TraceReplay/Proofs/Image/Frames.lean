import Mathlib.Data.List.Forall2
import Mathlib.Data.List.TakeWhile
import TraceReplay.Image.Pnm.Stream
import TraceReplay.Proofs.Image.Pixels

/-!
# Streams of PNM images are read in one way

A stream is a row of images, each spelled as PNM (`PnmFrame.Stream`). The comment ends with its line, a
number ends with its digits and the pixels end with the size, so where an image ends does not depend on what
follows it (`read?_eq_some_iff`): what spells a stream is read as this stream, and as no other
(`readAll?_eq_some_iff`). PNM has the red, green and blue bytes of the pixels where the buffer has them
(`Image.getElem?_rgbBytes`).
-/

namespace TraceReplay

namespace PnmFrame

/-- The digits spell the number. There may be zeros in front. -/
structure Digits (n : Nat) (digits : List UInt8) : Prop where
  some : digits ≠ []
  all : ∀ d ∈ digits, isDigit d = true
  value : valueOf digits = n

/-- The bytes are an image as PNM. -/
structure Spells (f : PnmFrame) (bytes : List UInt8) : Prop where
  line : lineEnd ∉ f.comment
  size : f.rgb.length = f.width * f.height * 3
  text : ∃ width height, Digits f.width width ∧ Digits f.height height ∧
    bytes = Text.utf8 "P6\n#" ++ (f.comment ++ lineEnd :: (width ++ (Text.utf8 " " ++
      (height ++ (Text.utf8 "\n255\n" ++ f.rgb)))))

/-- The bytes are images, one after the other, and nothing else. -/
inductive Stream : List PnmFrame → List UInt8 → Prop
  | nil : Stream [] []
  | cons {f : PnmFrame} {fs : List PnmFrame} {front rest : List UInt8} :
    f.Spells front → Stream fs rest → Stream (f :: fs) (front ++ rest)

variable {text : String} {bytes line digits block front rest : List UInt8} {n size : Nat} {f : PnmFrame}
  {fs : List PnmFrame}

theorem expect?_eq_some_iff : expect? text bytes = some rest ↔ bytes = Text.utf8 text ++ rest := by
  unfold expect?
  dsimp only
  constructor
  · intro h
    split at h
    · rename_i wanted
      have cut := List.take_append_drop (Text.utf8 text).length bytes
      rw [wanted, Option.some.inj h] at cut
      exact cut.symm
    · cases h
  · rintro rfl
    rw [List.take_left, if_pos rfl, List.drop_left]

/-- The list is cut before the first element that has not what those before it have. -/
theorem takeWhile_dropWhile_of_stop {p : UInt8 → Bool} (held : ∀ b ∈ front, p b = true)
    (stops : ∀ b, rest.head? = some b → p b = false) :
    (front ++ rest).takeWhile p = front ∧ (front ++ rest).dropWhile p = rest := by
  have stop : rest.takeWhile p = [] ∧ rest.dropWhile p = rest := by
    cases rest with
    | nil => exact ⟨rfl, rfl⟩
    | cons b rest =>
      have not : ¬ p b = true := by simp [stops b rfl]
      exact ⟨List.takeWhile_cons_of_neg not, List.dropWhile_cons_of_neg not⟩
  rw [List.takeWhile_append_of_pos held, List.dropWhile_append_of_pos held, stop.1, stop.2, List.append_nil]
  exact ⟨rfl, rfl⟩

theorem line?_eq_some_iff :
    line? bytes = some (line, rest) ↔ lineEnd ∉ line ∧ bytes = line ++ lineEnd :: rest := by
  have cut := List.takeWhile_append_dropWhile (p := (· != lineEnd)) (l := bytes)
  constructor
  · intro h
    have inside : ∀ b ∈ bytes.takeWhile (· != lineEnd), b ≠ lineEnd := fun b mem => by
      simpa using List.mem_takeWhile_imp mem
    have stops := List.head?_dropWhile_not (· != lineEnd) bytes
    unfold line? at h
    split at h
    · cases h
    · rename_i b _ behind
      obtain ⟨rfl, rfl⟩ := Prod.mk.inj (Option.some.inj h)
      rw [behind] at cut stops
      obtain rfl : b = lineEnd := by simpa using stops
      exact ⟨fun mem => inside _ mem rfl, cut.symm⟩
  · rintro ⟨whole, rfl⟩
    have held : ∀ b ∈ line, (b != lineEnd) = true := fun b mem => by
      simpa using fun same : b = lineEnd => whole (same ▸ mem)
    have stops : ∀ b, (lineEnd :: rest).head? = some b → (b != lineEnd) = false := fun b first => by
      simpa using (Option.some.inj first).symm
    obtain ⟨taken, dropped⟩ := takeWhile_dropWhile_of_stop held stops
    rw [line?, dropped, taken]

/-- A number is read with all its digits. -/
theorem number?_eq_some_iff :
    number? bytes = some (n, rest) ↔
      ∃ digits, Digits n digits ∧ bytes = digits ++ rest ∧
        ∀ b, rest.head? = some b → isDigit b = false := by
  constructor
  · intro h
    unfold number? at h
    split at h
    · cases h
    · rename_i some
      obtain ⟨rfl, rfl⟩ := Prod.mk.inj (Option.some.inj h)
      refine ⟨_, ⟨some, fun d mem => List.mem_takeWhile_imp mem, rfl⟩, ?_, fun b first => ?_⟩
      · exact List.takeWhile_append_dropWhile.symm
      · have stops := List.head?_dropWhile_not isDigit bytes
        rw [first] at stops
        simpa using stops
  · rintro ⟨digits, ⟨some, all, rfl⟩, rfl, stops⟩
    obtain ⟨taken, dropped⟩ := takeWhile_dropWhile_of_stop all stops
    unfold number?
    rw [taken, dropped]
    cases digits with
    | nil => exact absurd rfl some
    | cons d digits => rfl

theorem block?_eq_some_iff :
    block? size bytes = some (block, rest) ↔ block.length = size ∧ bytes = block ++ rest := by
  unfold block?
  constructor
  · intro h
    split at h
    · cases h
    · rename_i enough
      obtain ⟨rfl, rfl⟩ := Prod.mk.inj (Option.some.inj h)
      exact ⟨List.length_take_of_le (Nat.le_of_not_lt enough), (List.take_append_drop size bytes).symm⟩
  · rintro ⟨rfl, rfl⟩
    have enough : ¬ (block ++ rest).length < block.length := by simp
    rw [if_neg enough, List.take_left, List.drop_left]

/-- An image is read off a stream if it stands there. What follows it is no matter. -/
theorem read?_eq_some_iff :
    read? bytes = some (f, rest) ↔ ∃ front, f.Spells front ∧ bytes = front ++ rest := by
  have space : ∀ rest b, (Text.utf8 " " ++ rest).head? = some b → isDigit b = false := by
    rintro rest b ⟨⟩
    decide
  have lineEnds : ∀ rest b, (Text.utf8 "\n255\n" ++ rest).head? = some b → isDigit b = false := by
    rintro rest b ⟨⟩
    decide
  simp only [read?, Option.bind_eq_bind, Option.bind_eq_some_iff, Option.pure_def, Option.some.injEq,
    Prod.mk.injEq, Prod.exists, expect?_eq_some_iff, line?_eq_some_iff, number?_eq_some_iff,
    block?_eq_some_iff]
  constructor
  · rintro ⟨_, rfl, comment, _, ⟨line, rfl⟩, width, _, ⟨w, spelledW, rfl, _⟩, _, rfl, height, _,
      ⟨h, spelledH, rfl, _⟩, _, rfl, rgb, _, ⟨size, rfl⟩, rfl, rfl⟩
    refine ⟨_, ⟨line, size, w, h, spelledW, spelledH, rfl⟩, ?_⟩
    simp only [List.append_assoc, List.cons_append]
  · rintro ⟨_, ⟨line, size, w, h, spelledW, spelledH, rfl⟩, rfl⟩
    simp only [List.append_assoc, List.cons_append]
    exact ⟨_, rfl, _, _, ⟨line, rfl⟩, _, _, ⟨w, spelledW, rfl, space _⟩, _, rfl, _, _,
      ⟨h, spelledH, rfl, lineEnds _⟩, _, rfl, _, _, ⟨size, rfl⟩, rfl, rfl⟩

/-- A stream is read if the bytes spell it, and as nothing else than what they spell. -/
theorem readAll?_eq_some_iff : readAll? bytes = some fs ↔ Stream fs bytes := by
  fun_induction readAll? bytes generalizing fs with
  | case1 bytes empty =>
    obtain rfl := List.isEmpty_iff.1 empty
    constructor
    · rintro ⟨⟩
      exact .nil
    · intro h
      generalize none : ([] : List UInt8) = bytes at h
      cases h with
      | nil => rfl
      | cons spells _ =>
        obtain ⟨_, _, _, _, rfl⟩ := spells.text
        cases none
  | case2 bytes some unread =>
    refine ⟨nofun, fun h => ?_⟩
    cases h with
    | nil => exact absurd rfl some
    | cons spells _ => cases unread.symm.trans (read?_eq_some_iff.2 ⟨_, spells, rfl⟩)
  | case3 bytes some f rest read ih =>
    rw [Option.map_eq_some_iff]
    constructor
    · rintro ⟨fs, others, rfl⟩
      obtain ⟨front, spells, rfl⟩ := read?_eq_some_iff.1 read
      exact .cons spells (ih.1 others)
    · intro h
      cases h with
      | nil => exact absurd rfl some
      | cons spells others =>
        have again := read.symm.trans (read?_eq_some_iff.2 ⟨_, spells, rfl⟩)
        obtain ⟨rfl, rfl⟩ := Prod.mk.inj (Option.some.inj again)
        exact ⟨_, ih.2 others, rfl⟩

/-- What PNM shows of a snapshot: the number of its call and its image. -/
structure Shows (n : UInt32) (i : Image) (f : PnmFrame) : Prop where
  comment : f.comment = Text.utf8 (toString n.toNat)
  width : f.width = i.width
  height : f.height = i.height
  size : f.rgb.length = i.width * i.height * 3
  /-- Of the four bytes that a pixel has in the buffer, the last is left out. -/
  rgb : ∀ x y channel, x < i.width → y < i.height → channel < 3 →
    f.rgb[(y * i.width + x) * 3 + channel]? = i.bytes[(y * i.width + x) * 4 + channel]?

/-- A digit is one byte, with the digit's value. -/
theorem exists_utf8EncodeChar {d : Char} (digit : d.isDigit = true) :
    ∃ b, String.utf8EncodeChar d = [b] ∧ isDigit b = true ∧ b.toNat = d.toNat := by
  have range : 48 ≤ d.toNat ∧ d.toNat ≤ 57 := by
    simpa [Char.isDigit, Char.le_def, UInt32.le_iff_toNat_le] using digit
  have value : (UInt8.ofNat d.toNat).toNat = d.toNat :=
    UInt8.toNat_ofNat_of_lt' (Nat.lt_of_le_of_lt range.2 (by decide))
  refine ⟨UInt8.ofNat d.toNat, if_pos (Nat.le_trans range.2 (by decide)), ?_, value⟩
  rw [isDigit, Bool.and_eq_true, decide_eq_true_eq, decide_eq_true_eq, UInt8.le_iff_toNat_le,
    UInt8.le_iff_toNat_le, value]
  exact range

/-- So digits as text have the value that they have as bytes. -/
theorem foldl_utf8Chars {ds : List Char} (all : ∀ d ∈ ds, d.isDigit = true) (acc : Nat) :
    (∀ b ∈ Text.utf8Chars ds, isDigit b = true) ∧
      (Text.utf8Chars ds).foldl (fun n d => 10 * n + (d.toNat - 48)) acc = Nat.ofDigitChars 10 ds acc := by
  induction ds generalizing acc with
  | nil => exact ⟨nofun, rfl⟩
  | cons d ds ih =>
    obtain ⟨first, rest⟩ := List.forall_mem_cons.1 all
    obtain ⟨b, one, digit, value⟩ := exists_utf8EncodeChar first
    obtain ⟨digits, same⟩ := ih rest (10 * acc + (b.toNat - 48))
    have split : Text.utf8Chars (d :: ds) = b :: Text.utf8Chars ds := by
      rw [Text.utf8Chars, List.flatMap_cons, one]
      rfl
    rw [split, List.foldl_cons, same, value]
    exact ⟨List.forall_mem_cons.2 ⟨digit, digits⟩, rfl⟩

theorem digits_decimalBytes (n : Nat) : Digits n (Image.decimalBytes n) := by
  have all : ∀ d ∈ Nat.toDigits 10 n, d.isDigit = true := fun d mem =>
    Nat.isDigit_of_mem_toDigits (by decide) (by decide) mem
  obtain ⟨digits, value⟩ := foldl_utf8Chars all 0
  rw [Nat.ofDigitChars_toDigits (by decide) (by decide)] at value
  refine ⟨fun none => ?_, digits, value⟩
  obtain ⟨d, ds, some⟩ := List.exists_cons_of_ne_nil (Nat.toDigits_ne_nil (n := n) (b := 10))
  obtain ⟨b, one, -⟩ := exists_utf8EncodeChar (all d (some ▸ List.mem_cons_self))
  rw [Image.decimalBytes, some, Text.utf8Chars, List.flatMap_cons, one] at none
  cases none

theorem Digits.notMem_lineEnd (h : Digits n digits) : lineEnd ∉ digits := fun mem =>
  absurd (h.all lineEnd mem) (by decide)

theorem utf8_toString (n : Nat) : Text.utf8 (toString n) = Image.decimalBytes n :=
  congrArg Text.utf8Chars Nat.toList_repr

end PnmFrame

namespace Image

theorem length_rgb (c : Color) : c.rgb.length = 3 := rfl

variable (i : Image)

theorem length_rgbBytes : i.rgbBytes.length = i.width * i.height * 3 := by
  rw [rgbBytes, length_flatMap length_rgb, Array.length_toList, i.size_eq]

/-- The red, green and blue bytes of a pixel are those that the buffer has for it. -/
theorem getElem?_rgbBytes {k channel : Nat} (pixel : k < i.width * i.height) (color : channel < 3) :
    i.rgbBytes[k * 3 + channel]? = i.bytes[k * 4 + channel]? := by
  have same : ∀ c : Color, c.rgb[channel]? = c.bytes[channel]? := by
    intro c
    match channel, color with
    | 0, _ | 1, _ | 2, _ => rfl
  have inside : k * 4 + channel < (i.pixels.toList.flatMap Color.bytes).length := by
    rw [length_flatMap length_bytes, Array.length_toList, i.size_eq]
    omega
  rw [bytes, List.getElem?_append_left inside, rgbBytes, getElem?_flatMap length_rgb _ _ color,
    getElem?_flatMap length_bytes _ _ (Nat.lt_succ_of_lt color)]
  simp only [same]

/-- A comment on one line is told from the rest. -/
theorem spells_pnm {comment : String} (line : PnmFrame.lineEnd ∉ Text.utf8 comment) :
    (i.pnmFrame comment).Spells (i.pnm comment) := by
  refine ⟨line, i.length_rgbBytes, _, _, PnmFrame.digits_decimalBytes i.width,
    PnmFrame.digits_decimalBytes i.height, ?_⟩
  rw [pnm, pnmPieces]
  simp only [List.flatten_cons, List.flatten_nil, List.append_nil]
  rfl

theorem shows_pnmFrame (n : UInt32) : PnmFrame.Shows n i (i.pnmFrame (toString n.toNat)) := by
  refine ⟨rfl, rfl, rfl, i.length_rgbBytes, fun x y channel column row color => ?_⟩
  refine i.getElem?_rgbBytes ?_ color
  rw [← i.size_eq]
  exact i.index_lt column row

end Image

/-- The bytes are read as these snapshots, and in no other way. -/
structure PnmFrame.Decodes (shots : List (UInt32 × Image)) (bytes : List UInt8) : Prop where
  read : ∃ frames, PnmFrame.readAll? bytes = some frames ∧
    List.Forall₂ (fun shot f => PnmFrame.Shows shot.1 shot.2 f) shots frames
  unique : ∀ frames, PnmFrame.Stream frames bytes ↔ PnmFrame.readAll? bytes = some frames

/-- Snapshots as PNM, one after the other, can be read back, whatever their pixels are. -/
theorem PnmFrame.decodes_flatMap (shots : List (UInt32 × Image)) :
    PnmFrame.Decodes shots (shots.flatMap fun shot => shot.2.pnm (toString shot.1.toNat)) := by
  refine ⟨?_, fun frames => readAll?_eq_some_iff.symm⟩
  refine ⟨shots.map fun shot => shot.2.pnmFrame (toString shot.1.toNat), readAll?_eq_some_iff.2 ?_, ?_⟩
  · induction shots with
    | nil => exact .nil
    | cons shot shots ih =>
      refine .cons (shot.2.spells_pnm ?_) ih
      rw [utf8_toString]
      exact (digits_decimalBytes _).notMem_lineEnd
  · induction shots with
    | nil => exact .nil
    | cons shot shots ih => exact .cons (shot.2.shows_pnmFrame shot.1) ih

end TraceReplay
