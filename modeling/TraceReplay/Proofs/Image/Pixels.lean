import Mathlib
import TraceReplay.Image.Precision

/-!
# Images and their pixels

A buffer that is long enough is an image, which holds all of it: the pixels, and what the buffer has
beyond them (`Image.ofBytes_of_enough`). Two images are the same if their sizes, their pixels and the
bytes beyond agree (`Image.eq_iff`), and their error is that of the pixels and that of the bytes beyond
(`Image.squaredError_eq`). So an image is determined by its pixels if its buffer has nothing else, and
only then can any other buffer be told from its picture.
-/

namespace TraceReplay

namespace Image

section Even

variable {α : Type} {size : Nat} {parts : α → List UInt8} (even : ∀ a, (parts a).length = size)
  (as : List α)
include even

theorem length_flatMap : (as.flatMap parts).length = as.length * size := by
  simp only [List.length_flatMap, even, List.map_const', List.sum_replicate_nat]

/-- In a row of parts of one size, each part is found by its number. -/
theorem getElem?_flatMap (k : Nat) {channel : Nat} (inside : channel < size) :
    (as.flatMap parts)[k * size + channel]? = as[k]?.bind fun a => (parts a)[channel]? := by
  induction as generalizing k with
  | nil => simp
  | cons a as ih =>
    cases k with
    | zero =>
      have first : channel < (parts a).length := (even a).symm ▸ inside
      rw [List.flatMap_cons, Nat.zero_mul, Nat.zero_add, List.getElem?_append_left first]
      rfl
    | succ k =>
      have skip : (k + 1) * size + channel = (parts a).length + (k * size + channel) := by
        rw [even, Nat.succ_mul]
        omega
      rw [List.flatMap_cons, skip, List.getElem?_append_right (Nat.le_add_right _ _),
        Nat.add_sub_cancel_left, ih]
      rfl

end Even

theorem length_bytes (c : Color) : c.bytes.length = 4 := rfl

theorem length_pixelBytes (i : Image) :
    (i.pixels.toList.flatMap Color.bytes).length = byteCount i.width i.height := by
  rw [length_flatMap length_bytes, Array.length_toList, i.size_eq, byteCount]

/-- The buffer is exactly as long as the image needs if nothing is left over. -/
theorem length_bytes_eq_iff (i : Image) :
    i.bytes.length = byteCount i.width i.height ↔ i.surplus = [] := by
  rw [bytes, List.length_append, length_pixelBytes, ← List.length_eq_zero_iff]
  omega

/-- The channels of a pixel stand side by side in the buffer. -/
theorem getElem?_bytes (i : Image) {x y channel : Nat} (column : x < i.width) (row : y < i.height)
    (inside : channel < 4) :
    i.bytes[(y * i.width + x) * 4 + channel]? = (i.pixel? x y).bind fun c => c.bytes[channel]? := by
  have bound := i.index_lt column row
  have within : (y * i.width + x) * 4 + channel < (i.pixels.toList.flatMap Color.bytes).length := by
    rw [length_flatMap length_bytes, Array.length_toList]
    omega
  rw [bytes, List.getElem?_append_left within, getElem?_flatMap length_bytes _ _ inside,
    pixel?_of_inside column row, Array.getElem?_toList]

section Reading

variable {width height n : Nat} {buffer : List UInt8} {colors : Array Color}

theorem exists_four (enough : 4 ≤ buffer.length) :
    ∃ r g b a rest, buffer = r :: g :: b :: a :: rest := by
  obtain _ | ⟨r, _ | ⟨g, _ | ⟨b, _ | ⟨a, rest⟩⟩⟩⟩ := buffer
  case cons.cons.cons.cons => exact ⟨r, g, b, a, rest, rfl⟩
  all_goals exact absurd enough (by simp)

/-- Reading colours leaves no byte out, if there are enough. -/
theorem takeColors_eq (enough : n * 4 ≤ buffer.length) :
    (takeColors n buffer colors).1.toList.flatMap Color.bytes ++ (takeColors n buffer colors).2 =
      colors.toList.flatMap Color.bytes ++ buffer := by
  fun_induction takeColors n buffer colors with
  | case1 => rfl
  | case2 n r g b a rest colors ih =>
    have fewer : n * 4 ≤ rest.length := by
      simp only [List.length_cons] at enough
      omega
    rw [ih fewer, Array.toList_push, List.flatMap_append, List.append_assoc]
    rfl
  | case3 n buffer colors short =>
    obtain ⟨r, g, b, a, rest, colour⟩ := exists_four (by omega : 4 ≤ buffer.length)
    exact absurd colour (short r g b a rest)

/-- A buffer that is long enough is an image, which holds all of it. -/
theorem ofBytes_of_enough (countable : byteCount width height < UInt64.size)
    (enough : byteCount width height ≤ buffer.length) :
    ∃ i, ofBytes width height buffer = .ok i ∧ i.width = width ∧ i.height = height ∧
      i.bytes = buffer := by
  rw [ofBytes, if_neg (Nat.not_le_of_lt countable), if_neg (Nat.not_lt_of_le enough)]
  refine ⟨_, rfl, rfl, rfl, ?_⟩
  exact (takeColors_eq enough).trans (List.nil_append buffer)

theorem ofBytes_of_short (countable : byteCount width height < UInt64.size)
    (short : buffer.length < byteCount width height) :
    ofBytes width height buffer = .error (.tooShort width height buffer.length) := by
  rw [ofBytes, if_neg (Nat.not_le_of_lt countable), if_pos short]

theorem ofBytes_of_uncountable (uncountable : UInt64.size ≤ byteCount width height) :
    ofBytes width height buffer = .error (.uncountable width height) := by
  rw [ofBytes, if_pos uncountable]

/-- What is beyond the pixels is the rest of the buffer. -/
theorem surplus_eq (i : Image) : i.surplus = i.bytes.drop (byteCount i.width i.height) := by
  rw [bytes, List.drop_left' i.length_pixelBytes]

end Reading

section Pixelwise

variable {a b : Image} {x y : Nat} {p : Color}

theorem pixel?_eq_some_iff :
    a.pixel? x y = some p ↔ x < a.width ∧ y < a.height ∧ a.pixels[y * a.width + x]? = some p := by
  by_cases inside : x < a.width ∧ y < a.height
  · rw [pixel?_of_inside inside.1 inside.2]
    tauto
  · rw [pixel?_of_outside inside]
    constructor
    · exact nofun
    · rintro ⟨column, row, _⟩
      exact absurd ⟨column, row⟩ inside

/-- Every place in the row-major order is that of a pixel. -/
theorem exists_pixel?_of_lt {k : Nat} (bound : k < a.pixels.size) :
    a.pixel? (k % a.width) (k / a.width) = some a.pixels[k] := by
  have inside := bound
  rw [a.size_eq] at inside
  have some : 0 < a.width := Nat.pos_of_mul_pos_right (Nat.zero_lt_of_lt inside)
  have place : k / a.width * a.width + k % a.width = k := Nat.div_add_mod' k a.width
  rw [pixel?_eq_some_iff, place]
  exact ⟨Nat.mod_lt k some, Nat.div_lt_of_lt_mul inside, Array.getElem?_eq_getElem bound⟩

theorem size_pixels_eq (width : a.width = b.width) (height : a.height = b.height) :
    a.pixels.toList.length = b.pixels.toList.length := by
  rw [Array.length_toList, Array.length_toList, a.size_eq, b.size_eq, width, height]

/-- What holds of the colours of two images place by place holds of them pixel by pixel. -/
theorem forall_pixels_iff {R : Color → Color → Prop} (width : a.width = b.width)
    (height : a.height = b.height) :
    List.Forall₂ R a.pixels.toList b.pixels.toList ↔
      ∀ x y p q, a.pixel? x y = some p → b.pixel? x y = some q → R p q := by
  rw [List.forall₂_iff_get]
  constructor
  · rintro ⟨_, each⟩ x y p q foundA foundB
    obtain ⟨_, _, foundA⟩ := pixel?_eq_some_iff.1 foundA
    obtain ⟨_, _, foundB⟩ := pixel?_eq_some_iff.1 foundB
    rw [← width] at foundB
    obtain ⟨boundA, rfl⟩ := Array.getElem?_eq_some_iff.1 foundA
    obtain ⟨boundB, rfl⟩ := Array.getElem?_eq_some_iff.1 foundB
    exact each (y * a.width + x) boundA boundB
  · intro each
    have size : a.pixels.size = b.pixels.size := by rw [a.size_eq, b.size_eq, width, height]
    refine ⟨size, fun k boundA boundB => ?_⟩
    have foundB := exists_pixel?_of_lt (a := b) boundB
    rw [← width] at foundB
    exact each _ _ _ _ (exists_pixel?_of_lt boundA) foundB

/-- Images of one size have the same pixels in the same order if they have them in the same places. -/
theorem pixels_eq_iff (width : a.width = b.width) (height : a.height = b.height) :
    a.pixels = b.pixels ↔ ∀ x y, a.pixel? x y = b.pixel? x y := by
  constructor
  · intro same x y
    rw [pixel?, pixel?, same, width, height]
  · intro each
    have all : List.Forall₂ Eq a.pixels.toList b.pixels.toList := by
      rw [forall_pixels_iff width height]
      intro x y p q foundA foundB
      rw [each] at foundA
      exact Option.some.inj (foundA.symm.trans foundB)
    rw [List.forall₂_eq_eq_eq] at all
    exact Array.toList_inj.1 all

/-- Two images are the same if sizes, pixels and the bytes beyond the pixels are. -/
theorem eq_iff :
    a = b ↔ a.width = b.width ∧ a.height = b.height ∧ (∀ x y, a.pixel? x y = b.pixel? x y) ∧
      a.surplus = b.surplus := by
  constructor
  · rintro rfl
    exact ⟨rfl, rfl, fun _ _ => rfl, rfl⟩
  · rintro ⟨width, height, each, surplus⟩
    have pixels := (pixels_eq_iff width height).2 each
    cases a
    cases b
    cases width
    cases height
    cases pixels
    cases surplus
    rfl

end Pixelwise

section Error

/-- The error of two rows of bytes. -/
def rowError (as bs : List UInt8) : Nat := (List.zipWith squaredDifference as bs).sum

/-- The error of two colours. -/
def colorError (p q : Color) : Nat := rowError p.bytes q.bytes

/-- The error of the pixels of two images. -/
def pixelError (a b : Image) : Nat :=
  (List.zipWith colorError a.pixels.toList b.pixels.toList).sum

variable {as as' bs bs' : List UInt8} {a b : Image}

theorem rowError_append (same : as.length = bs.length) :
    rowError (as ++ as') (bs ++ bs') = rowError as bs + rowError as' bs' := by
  rw [rowError, List.zipWith_append same, List.sum_append]
  rfl

/-- The error of colours side by side is that of their channels. -/
theorem rowError_flatMap {ps qs : List Color} (same : ps.length = qs.length) :
    rowError (ps.flatMap Color.bytes) (qs.flatMap Color.bytes) =
      (List.zipWith colorError ps qs).sum := by
  induction ps generalizing qs with
  | nil => rfl
  | cons p ps ih =>
    cases qs with
    | nil => cases same
    | cons q qs =>
      have channels : p.bytes.length = q.bytes.length := rfl
      rw [List.flatMap_cons, List.flatMap_cons, rowError_append channels, ih (Nat.succ.inj same)]
      rfl

/-- Of two images of one size, the pixels and the bytes beyond add up to the error. -/
theorem squaredError_eq (width : a.width = b.width) (height : a.height = b.height) :
    squaredError a b = pixelError a b + rowError a.surplus b.surplus := by
  have size := size_pixels_eq width height
  have bytes : (a.pixels.toList.flatMap Color.bytes).length =
      (b.pixels.toList.flatMap Color.bytes).length := by
    rw [length_flatMap length_bytes, length_flatMap length_bytes, size]
  calc squaredError a b = rowError a.bytes b.bytes := List.sum_eq_foldl.symm
    _ = rowError (a.pixels.toList.flatMap Color.bytes) (b.pixels.toList.flatMap Color.bytes) +
          rowError a.surplus b.surplus := rowError_append bytes
    _ = pixelError a b + rowError a.surplus b.surplus := by rw [rowError_flatMap size]; rfl

/-- Nothing adds up to zero but zeros. -/
theorem sum_zipWith_eq_zero_iff {α β : Type} {f : α → β → Nat} {xs : List α} {ys : List β} :
    (List.zipWith f xs ys).sum = 0 ↔ ∀ z ∈ xs.zip ys, f z.1 z.2 = 0 := by
  induction xs generalizing ys with
  | nil => simp
  | cons x xs ih =>
    cases ys with
    | nil => simp
    | cons y ys =>
      rw [List.zipWith_cons_cons, List.sum_cons, Nat.add_eq_zero_iff, ih, List.zip_cons_cons,
        List.forall_mem_cons]

/-- Rows have no error if they agree as far as both go. -/
theorem rowError_eq_zero_iff : rowError as bs = 0 ↔ ∀ z ∈ as.zip bs, z.1 = z.2 := by
  simp only [rowError, sum_zipWith_eq_zero_iff, squaredDifference_eq_zero_iff]

theorem colorError_eq_zero_iff {p q : Color} : colorError p q = 0 ↔ p = q := by
  obtain ⟨r, g, b, a⟩ := p
  obtain ⟨r', g', b', a'⟩ := q
  rw [colorError, rowError_eq_zero_iff, Color.mk.injEq]
  simp only [Color.bytes, List.zip_cons_cons, List.zip_nil_left, List.forall_mem_cons,
    List.not_mem_nil, false_implies, implies_true, and_true]

/-- Images of one size have no error in their pixels if these are the same. -/
theorem pixelError_eq_zero_iff (width : a.width = b.width) (height : a.height = b.height) :
    pixelError a b = 0 ↔ ∀ x y, a.pixel? x y = b.pixel? x y := by
  have size := size_pixels_eq width height
  rw [← pixels_eq_iff width height, ← Array.toList_inj, ← List.forall₂_eq_eq_eq,
    List.forall₂_iff_zip, pixelError, sum_zipWith_eq_zero_iff]
  simp only [colorError_eq_zero_iff, size, true_and, Prod.forall]

/-- So they have no error at all if also the bytes beyond agree as far as both images have some. -/
theorem squaredError_eq_zero_iff (width : a.width = b.width) (height : a.height = b.height) :
    squaredError a b = 0 ↔
      (∀ x y, a.pixel? x y = b.pixel? x y) ∧ ∀ z ∈ a.surplus.zip b.surplus, z.1 = z.2 := by
  rw [squaredError_eq width height, Nat.add_eq_zero_iff, pixelError_eq_zero_iff width height,
    rowError_eq_zero_iff]

theorem compare_of_pixels (width : a.width = b.width) (height : a.height = b.height)
    (pixels : a.isEmpty = false) :
    a.compare b = .measured a.width a.height (squaredError a b) := by
  rw [compare, if_neg]
  simp [width, height, pixels]

end Error

/-- What a buffer is as an image of a size. -/
structure OfBuffer (width height : Nat) (buffer : List UInt8) : Prop where
  /-- It is one if it is long enough, and if the bytes of the size can be counted. -/
  accepted : (∃ i, ofBytes width height buffer = .ok i) ↔
    byteCount width height < UInt64.size ∧ byteCount width height ≤ buffer.length
  refused : byteCount width height < UInt64.size → buffer.length < byteCount width height →
    ofBytes width height buffer = .error (.tooShort width height buffer.length)
  /-- The image holds the whole buffer, its pixels row by row with their channels side by side. -/
  holds : ∀ i, ofBytes width height buffer = .ok i →
    i.width = width ∧ i.height = height ∧ i.bytes = buffer ∧
      i.surplus = buffer.drop (byteCount width height) ∧
      ∀ x y channel, x < width → y < height → channel < 4 →
        buffer[(y * width + x) * 4 + channel]? = (i.pixel? x y).bind fun c => c.bytes[channel]?
  /-- If nothing is left of the buffer, the pixels tell the image from every other such image. -/
  exact : ∀ i, ofBytes width height buffer = .ok i → buffer.length = byteCount width height →
    ∀ j, j.bytes.length = byteCount j.width j.height →
      (i = j ↔ i.width = j.width ∧ i.height = j.height ∧ ∀ x y, i.pixel? x y = j.pixel? x y)

/-- How two images of any buffers compare. -/
structure Comparable (a b : Image) : Prop where
  same : a = b ↔ a.width = b.width ∧ a.height = b.height ∧
    (∀ x y, a.pixel? x y = b.pixel? x y) ∧ a.surplus = b.surplus
  /-- Pixels and bytes beyond them count apart. -/
  error : a.width = b.width → a.height = b.height →
    squaredError a b = pixelError a b + rowError a.surplus b.surplus
  /-- Equal pixels are not enough for the greatest precision, unless nothing is left of a buffer. -/
  perfect : a.width = b.width → a.height = b.height → a.isEmpty = false →
    (a.compare b = .measured a.width a.height 0 ↔
      (∀ x y, a.pixel? x y = b.pixel? x y) ∧ ∀ z ∈ a.surplus.zip b.surplus, z.1 = z.2)

theorem ofBuffer (width height : Nat) (buffer : List UInt8) : OfBuffer width height buffer := by
  have held : ∀ i, ofBytes width height buffer = .ok i →
      byteCount width height < UInt64.size ∧ byteCount width height ≤ buffer.length ∧
        i.width = width ∧ i.height = height ∧ i.bytes = buffer := by
    intro i read
    by_cases uncountable : UInt64.size ≤ byteCount width height
    · cases read.symm.trans (ofBytes_of_uncountable uncountable)
    · have countable := Nat.lt_of_not_le uncountable
      by_cases short : buffer.length < byteCount width height
      · cases read.symm.trans (ofBytes_of_short countable short)
      · have enough := Nat.le_of_not_lt short
        obtain ⟨i', read', size⟩ := ofBytes_of_enough countable enough
        obtain rfl := Except.ok.inj (read.symm.trans read')
        exact ⟨countable, enough, size⟩
  constructor
  case accepted =>
    constructor
    · rintro ⟨i, read⟩
      obtain ⟨countable, enough, _⟩ := held i read
      exact ⟨countable, enough⟩
    · rintro ⟨countable, enough⟩
      obtain ⟨i, read, _⟩ := ofBytes_of_enough countable enough
      exact ⟨i, read⟩
  case refused => exact ofBytes_of_short
  case holds =>
    intro i read
    obtain ⟨_, _, rfl, rfl, rfl⟩ := held i read
    exact ⟨rfl, rfl, rfl, i.surplus_eq, fun _ _ _ => i.getElem?_bytes⟩
  case exact =>
    intro i read length j exact
    obtain ⟨_, _, rfl, rfl, rfl⟩ := held i read
    rw [length_bytes_eq_iff] at length exact
    rw [eq_iff, length, exact]
    simp only [and_true]

theorem comparable (a b : Image) : Comparable a b := by
  refine ⟨eq_iff, squaredError_eq, fun width height pixels => ?_⟩
  rw [compare_of_pixels width height pixels, Precision.measured.injEq, squaredError_eq_zero_iff width height]
  simp only [true_and]

/-- Any buffer that is long enough is an image; what it holds beyond the pixels tells it from others and
counts when they are compared. Without such bytes images are determined by their pixels. -/
theorem determined_by_buffers (width height : Nat) (buffer : List UInt8) :
    OfBuffer width height buffer ∧ ∀ a b : Image, Comparable a b :=
  ⟨ofBuffer width height buffer, comparable⟩

/-- Two buffers of five bytes for one pixel: both are images, with the same pixel, but they differ and
their precision is not the greatest. -/
theorem told_apart_beyond_pixels :
    ∃ a b, ofBytes 1 1 [1, 2, 3, 4, 0] = .ok a ∧ ofBytes 1 1 [1, 2, 3, 4, 9] = .ok b ∧
      (∀ x y, a.pixel? x y = b.pixel? x y) ∧ a ≠ b ∧ a.compare b = .measured 1 1 81 :=
  ⟨_, _, rfl, rfl, fun _ _ => rfl, by decide, by decide⟩

end Image

end TraceReplay
