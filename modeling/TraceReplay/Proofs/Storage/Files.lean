import TraceReplay.Storage.Files

/-!
# Files that were written

A write changes the content of one place and no directory, so paths go on leading where they led. The
file that was written can be read back (`read_of_write`), and a file at another place still has its
content (`read_of_write_of_ne`).
-/

namespace TraceReplay.Files

variable {f g : Files} {path other : String} {content : ByteArray} {p q : List String}

/-- Where paths lead depends on the directories. -/
theorem isDirectory_congr (same : g.directories = f.directories) (place : List String) :
    g.isDirectory place = f.isDirectory place := by
  rw [isDirectory, isDirectory, same]

theorem walk_congr (same : g.directories = f.directories) {components : List String}
    (led : f.walk p components = .ok q) : g.walk p components = .ok q := by
  induction components generalizing p with
  | nil => exact led
  | cons c components ih =>
    rw [walk] at led ⊢
    cases step : step? p c with
    | error e =>
      rw [step] at led
      cases led
    | ok next =>
      simp only [step, bind, Except.bind, isDirectory_congr same] at led ⊢
      split at led
      · rename_i directory
        rw [if_pos directory]
        exact ih led
      · split at led <;> cases led

theorem lastDirectory_congr (same : g.directories = f.directories)
    (led : f.lastDirectory path = .ok q) : g.lastDirectory path = .ok q := by
  rw [lastDirectory] at led ⊢
  split at led
  · cases led
  · split at led
    · cases led
    · split at led
      · cases led
      · rename_i zero long empty
        rw [if_neg zero, if_neg long, if_neg empty]
        exact walk_congr same led

/-- A path leads somewhere when its directory is there and its last component can be a name. -/
theorem place_eq_ok_iff : f.place path = .ok p ↔ ∃ directory, f.lastDirectory path = .ok directory ∧
    (match (components path).getLast? with
      | none => Except.ok directory
      | some c => step? directory c) = .ok p := by
  rw [place]
  cases f.lastDirectory path with
  | error e => exact ⟨fun h => (by cases h), fun ⟨_, h, _⟩ => (by cases h)⟩
  | ok directory =>
    constructor
    · exact fun h => ⟨directory, rfl, h⟩
    · rintro ⟨_, found, h⟩
      obtain rfl := Except.ok.inj found
      exact h

theorem place_congr (same : g.directories = f.directories) (led : f.place path = .ok p) :
    g.place path = .ok p := by
  obtain ⟨directory, found, last⟩ := place_eq_ok_iff.1 led
  exact place_eq_ok_iff.2 ⟨directory, lastDirectory_congr same found, last⟩

/-- A file can be read where a path leads to its content, and is not made to look like a directory. -/
theorem read_eq_ok_iff : f.read path = .ok content ↔ ∃ p, f.place path = .ok p ∧
    f.isDirectory p = false ∧ f.content? p = some content ∧ endsInSlash path = false := by
  rw [read]
  cases f.place path with
  | error e => exact ⟨fun h => (by cases h), fun ⟨_, h, _⟩ => (by cases h)⟩
  | ok p =>
    simp only [bind, Except.bind, Except.ok.injEq, exists_eq_left']
    cases f.isDirectory p <;> cases f.content? p <;> cases endsInSlash path <;> simp

/-- A file can be written where a path leads to no directory. -/
theorem write_eq_ok_iff : f.write path content = .ok g ↔ ∃ p, f.place path = .ok p ∧
    f.isDirectory p = false ∧ endsInSlash path = false ∧
      g = { f with contents := (p, content) :: f.contents.filter (·.1 != p) } := by
  rw [write]
  constructor
  · intro written
    cases found : f.lastDirectory path with
    | error e =>
      rw [found] at written
      cases written
    | ok directory =>
      rw [found] at written
      simp only [bind, Except.bind] at written
      split at written
      · cases written
      · rename_i slash
        cases led : f.place path with
        | error e =>
          rw [led] at written
          cases written
        | ok p =>
          rw [led] at written
          simp only at written
          split at written
          · cases written
          · rename_i free
            exact ⟨p, rfl, by simpa using free, by simpa using slash, (Except.ok.inj written).symm⟩
  · rintro ⟨p, led, free, slash, rfl⟩
    obtain ⟨directory, found, _⟩ := place_eq_ok_iff.1 led
    simp only [found, led, slash, free, bind, Except.bind, Bool.false_eq_true, if_false]

theorem directories_of_write (written : f.write path content = .ok g) :
    g.directories = f.directories := by
  obtain ⟨_, _, _, _, rfl⟩ := write_eq_ok_iff.1 written
  rfl

/-- What is put at one place leaves the content of every other. -/
theorem content?_put_of_ne (ne : p ≠ q) :
    ({ f with contents := (p, content) :: f.contents.filter (·.1 != p) } : Files).content? q =
      f.content? q := by
  have missed : ((p, content).1 == q) = false := by simpa using ne
  rw [content?, content?, List.find?_cons_of_neg (by simp [missed]), List.find?_filter]
  congr 2
  funext entry
  by_cases here : entry.1 = q
  · simp [here, ne.symm]
  · simp [here]

/-- The file that was written has the content. -/
theorem read_of_write (written : f.write path content = .ok g) : g.read path = .ok content := by
  have same := directories_of_write written
  obtain ⟨p, led, free, slash, rfl⟩ := write_eq_ok_iff.1 written
  refine read_eq_ok_iff.2 ⟨p, place_congr same led, ?_, ?_, slash⟩
  · rw [isDirectory_congr same, free]
  · simp [content?]

/-- The file that was written can be written again. -/
theorem exists_write_of_write (written : f.write path content = .ok g) (more : ByteArray) :
    ∃ h, g.write path more = .ok h := by
  have same := directories_of_write written
  obtain ⟨p, led, free, slash, -⟩ := write_eq_ok_iff.1 written
  have free' : g.isDirectory p = false := by rw [isDirectory_congr same, free]
  exact ⟨_, write_eq_ok_iff.2 ⟨p, place_congr same led, free', slash, rfl⟩⟩

/-- A file at another place still has its content. -/
theorem read_of_write_of_ne {old : ByteArray} (written : f.write path content = .ok g)
    (apart : ∀ p, f.place path = .ok p → f.place other ≠ .ok p) (there : f.read other = .ok old) :
    g.read other = .ok old := by
  have same := directories_of_write written
  obtain ⟨p, led, _, _, rfl⟩ := write_eq_ok_iff.1 written
  obtain ⟨q, led', free, has, slash⟩ := read_eq_ok_iff.1 there
  have ne : p ≠ q := fun eq => apart p led (eq ▸ led')
  refine read_eq_ok_iff.2 ⟨q, place_congr same led', ?_, ?_, slash⟩
  · rw [isDirectory_congr same, free]
  · rw [content?_put_of_ne ne, has]

/-- What can be read is there. -/
theorem hasEntry_of_read (there : f.read path = .ok content) : f.hasEntry path = true := by
  rw [hasEntry, there]

/-- A last component that is a name is the last of the place. -/
theorem getLast?_of_place {name : String} (led : f.place path = .ok p)
    (last : (components path).getLast? = some name) (up : name ≠ "..") (here : name ≠ ".") :
    p.getLast? = some name := by
  obtain ⟨directory, _, stepped⟩ := place_eq_ok_iff.1 led
  simp only [last, step?, step, if_neg up, if_neg here] at stepped
  split at stepped
  · cases stepped
  · obtain rfl := Except.ok.inj stepped
    exact List.getLast?_concat

end TraceReplay.Files
