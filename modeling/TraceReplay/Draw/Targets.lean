import TraceReplay.Image.Basic

/-!
# Render targets

The images that can be drawn into, each under its id, listed in ascending order of the ids.
-/

namespace TraceReplay

/-- Images by target id, in ascending order. -/
structure Targets where
  entries : List (UInt8 × Image)
deriving DecidableEq

namespace Targets

/-- Target 0 alone. -/
def single (image : Image) : Targets := ⟨[(0, image)]⟩

/-- The image of a target. -/
def find? (t : Targets) (id : UInt8) : Option Image := t.entries.lookup id

/-- Put an image under an id into an ascending list, in place of one that is there. -/
def insertEntry (id : UInt8) (image : Image) : List (UInt8 × Image) → List (UInt8 × Image)
  | [] => [(id, image)]
  | (id', image') :: rest =>
    if id < id' then (id, image) :: (id', image') :: rest
    else if id = id' then (id, image) :: rest
    else (id', image') :: insertEntry id image rest

/-- Put an image under an id. -/
def insert (t : Targets) (id : UInt8) (image : Image) : Targets :=
  ⟨insertEntry id image t.entries⟩

theorem lookup_cons (id j : UInt8) (image : Image) (rest : List (UInt8 × Image)) :
    ((id, image) :: rest).lookup j = if j = id then some image else rest.lookup j := by
  rw [List.lookup_cons]
  by_cases h : j = id
  · simp [h]
  · have hb : (j == id) = false := by simpa using h
    simp [hb, h]

theorem lookup_insertEntry (id j : UInt8) (image : Image) (entries : List (UInt8 × Image)) :
    (insertEntry id image entries).lookup j = if j = id then some image else entries.lookup j := by
  induction entries with
  | nil => exact lookup_cons id j image []
  | cons e rest ih =>
    obtain ⟨id', image'⟩ := e
    rw [insertEntry]
    split
    · exact lookup_cons id j image _
    · split
      · rename_i h
        subst h
        simp only [lookup_cons]
        split <;> rfl
      · rename_i hne
        simp only [lookup_cons, ih]
        by_cases h : j = id'
        · subst h
          simp [Ne.symm hne]
        · simp [h]

/-- Inserting changes the one target and no other. -/
@[simp] theorem find?_insert (t : Targets) (id j : UInt8) (image : Image) :
    (t.insert id image).find? j = if j = id then some image else t.find? j :=
  lookup_insertEntry id j image t.entries

theorem insertEntry_insertEntry (id : UInt8) (first second : Image)
    (entries : List (UInt8 × Image)) :
    insertEntry id second (insertEntry id first entries) = insertEntry id second entries := by
  induction entries with
  | nil => simp [insertEntry]
  | cons e rest ih =>
    obtain ⟨id', image'⟩ := e
    by_cases lt : id < id'
    · simp [insertEntry, lt]
    · by_cases eq : id = id'
      · simp [insertEntry, eq]
      · simp [insertEntry, lt, eq, ih]

/-- Of two images put under one id the second counts. -/
@[simp] theorem insert_insert (t : Targets) (id : UInt8) (first second : Image) :
    (t.insert id first).insert id second = t.insert id second :=
  congrArg Targets.mk (insertEntry_insertEntry id first second t.entries)

end Targets

end TraceReplay
