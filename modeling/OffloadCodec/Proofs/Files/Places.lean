import OffloadCodec.FileTree

/-!
# What stands at a place

Putting an entry at a place changes what stands there and nowhere else (`FileTree.get?_put`). A file
may come to stand at a place where no directory is: every path leads where it did before
(`FileTree.resolve_put`), since a path leads through directories only.

`FileTree.fileAt?` is what the file that a path names holds. A file that is opened for reading is one
(`FileTree.openForReading_file`), and one that is created is empty at first and may then be given
other contents (`FileTree.create_ok`, `FileTree.fileAt?_put`).
-/

namespace OffloadCodec.FileTree

variable {tree tree' : FileTree} {place other : Path} {entry : Entry} {path : String}
  {bytes : Bytes}

/-! ## Entries -/

theorem lookup_replaced (entries : List (Path × Entry)) (place other : Path) (entry : Entry) :
    (entries.map fun e => if e.1 = place then (place, entry) else e).lookup other =
      if other = place then (entries.lookup place).map fun _ => entry
      else entries.lookup other := by
  induction entries with
  | nil =>
    split
    · rfl
    · rfl
  | cons first entries ih =>
    obtain ⟨here, held⟩ := first
    rw [List.map_cons]
    by_cases found : here = place
    · subst found
      simp only [if_true, List.lookup_cons, ih, beq_self_eq_true, Option.map_some]
      by_cases same : other = here
      · rw [if_pos same, same, beq_self_eq_true, if_pos rfl]
      · rw [if_neg same, if_neg same, beq_false_of_ne same]
    · simp only [if_neg found, List.lookup_cons, ih, beq_false_of_ne (Ne.symm found)]
      by_cases same : other = place
      · rw [if_pos same, same, beq_false_of_ne (Ne.symm found), if_pos rfl]
      · rw [if_neg same, if_neg same]

/-- Only what stands at the place is changed. -/
theorem get?_put (inside : place.isAbove = false) (entry : Entry) (other : Path) :
    (tree.put place entry).get? other = if other = place then some entry else tree.get? other := by
  rw [get?, get?]
  by_cases above : other.isAbove = true
  · have apart : other ≠ place := by
      rintro rfl
      rw [above] at inside
      cases inside
    rw [if_pos above, if_pos above, if_neg apart]
  rw [if_neg above, if_neg above, put]
  cases held : tree.entries.lookup place with
  | some old =>
    rw [Option.isSome_some, if_pos rfl, lookup_replaced, held]
    rfl
  | none =>
    rw [Option.isSome_none, if_neg Bool.false_ne_true, List.lookup_append]
    by_cases same : other = place
    · subst same
      rw [if_pos rfl, held, List.lookup_cons, beq_self_eq_true]
      rfl
    · rw [if_neg same, List.lookup_cons, beq_false_of_ne same]
      exact Option.or_none

/-- Directories on the way up are there for good. -/
theorem isAbove_eq_false (free : tree.get? place ≠ some .directory) : place.isAbove = false := by
  cases above : place.isAbove with
  | false => rfl
  | true => exact absurd (if_pos above) free

theorem get?_put_same (free : tree.get? place ≠ some .directory) (entry : Entry) :
    (tree.put place entry).get? place = some entry := by
  rw [get?_put (isAbove_eq_false free), if_pos rfl]

theorem get?_put_other (free : tree.get? place ≠ some .directory) (entry : Entry)
    (apart : other ≠ place) : (tree.put place entry).get? other = tree.get? other := by
  rw [get?_put (isAbove_eq_false free), if_neg apart]

/-! ## Paths -/

/-- A walk goes through directories, which a file does not replace. -/
theorem walk_put (free : tree.get? place ≠ some .directory) (bytes : Bytes) {start reached : Path}
    {parts : List String} (walked : tree.walk start parts = .ok reached) :
    (tree.put place (.file bytes)).walk start parts = .ok reached := by
  induction parts generalizing start with
  | nil => exact walked
  | cons part parts ih =>
    rw [walk] at walked ⊢
    split at walked
    · cases walked
    · cases walked
    · next passed =>
      have apart : start ≠ place := by
        rintro rfl
        exact free passed
      rw [get?_put_other free _ apart, passed]
      dsimp only
      by_cases blank : isBlankPart part = true
      · rw [if_pos blank] at walked ⊢
        exact ih walked
      rw [if_neg blank] at walked ⊢
      by_cases up : part = ".."
      · rw [if_pos up] at walked ⊢
        exact ih walked
      rw [if_neg up] at walked ⊢
      by_cases long : 255 < part.utf8ByteSize
      · rw [if_pos long] at walked
        cases walked
      · rw [if_neg long] at walked ⊢
        exact ih walked

/-- A path leads where it did before a file came to stand somewhere. -/
theorem resolve_put (free : tree.get? place ≠ some .directory) (bytes : Bytes)
    (resolved : tree.resolve path = .ok other) :
    (tree.put place (.file bytes)).resolve path = .ok other := by
  rw [resolve] at resolved ⊢
  rcases started : start path with e | ⟨from_, parts⟩
  · rw [started] at resolved
    cases resolved
  · rw [started] at resolved
    exact walk_put free bytes resolved

/-! ## Files -/

/-- What the file at a path holds, if a file stands there. -/
def fileAt? (tree : FileTree) (path : String) : Option Bytes :=
  match tree.resolve path with
  | .error _ => none
  | .ok place =>
    match tree.get? place with
    | some (.file bytes) => some bytes
    | some .directory => none
    | none => none

theorem fileAt?_eq (resolved : tree.resolve path = .ok place)
    (held : tree.get? place = some (.file bytes)) : tree.fileAt? path = some bytes := by
  rw [fileAt?, resolved]
  dsimp only
  rw [held]

/-- The file that a path names holds what was put at its place. -/
theorem fileAt?_put (free : tree.get? place ≠ some .directory)
    (resolved : tree.resolve path = .ok place) (bytes : Bytes) :
    (tree.put place (.file bytes)).fileAt? path = some bytes :=
  fileAt?_eq (resolve_put free bytes resolved) (get?_put_same free _)

/-- A file that is created stands where the path leads, and no directory is there. -/
theorem create_ok (created : tree.create path = .ok (place, tree')) :
    tree.resolve path = .ok place ∧ tree.get? place ≠ some .directory ∧
      tree' = tree.put place (.file []) := by
  have resolved : ∀ {place : Path}, tree.resolveNew path = .ok place →
      tree.resolve path = .ok place := by
    intro place found
    rw [resolveNew] at found
    rw [resolve]
    rcases started : start path with e | ⟨from_, parts⟩
    · rw [started] at found
      cases found
    rw [started] at found
    dsimp only at found ⊢
    split at found
    · split at found
      · cases found
      · cases found
    · exact found
  rw [create] at created
  split at created
  · cases created
  · next found =>
    split at created
    · cases created
    · next held =>
      cases created
      refine ⟨resolved found, ?_, rfl⟩
      rw [held]
      nofun
    · next held =>
      cases created
      refine ⟨resolved found, ?_, rfl⟩
      rw [held]
      nofun

/-- A file that is created holds what is put at its place later. -/
theorem fileAt?_created (created : tree.create path = .ok (place, tree')) (bytes : Bytes) :
    (tree'.put place (.file bytes)).fileAt? path = some bytes := by
  obtain ⟨resolved, free, rfl⟩ := create_ok created
  have free' : (tree.put place (.file [])).get? place ≠ some .directory := by
    rw [get?_put_same free]
    nofun
  exact fileAt?_put free' (resolve_put free [] resolved) bytes

/-- A file that is created is empty, and nothing else is changed. -/
theorem create_empties (created : tree.create path = .ok (place, tree')) :
    tree'.fileAt? path = some [] ∧ ∀ other, other ≠ place → tree'.get? other = tree.get? other := by
  obtain ⟨resolved, free, rfl⟩ := create_ok created
  exact ⟨fileAt?_put free resolved [], fun other apart => get?_put_other free _ apart⟩

/-- Only the file that is created is changed by what is put at its place later. -/
theorem get?_created (created : tree.create path = .ok (place, tree')) (bytes : Bytes)
    (apart : other ≠ place) : (tree'.put place (.file bytes)).get? other = tree.get? other := by
  obtain ⟨-, free, rfl⟩ := create_ok created
  have free' : (tree.put place (.file [])).get? place ≠ some .directory := by
    rw [get?_put_same free]
    nofun
  rw [get?_put_other free' _ apart, get?_put_other free _ apart]

/-- What is opened for reading stands where the path leads. -/
theorem openForReading_ok {handle : Handle} (opened : tree.openForReading path = .ok handle) :
    tree.resolve path = .ok handle.path := by
  rw [openForReading] at opened
  split at opened
  · cases opened
  · next found =>
    split at opened
    · cases opened
    · cases opened
      exact found
    · cases opened
      exact found

/-- An opened file that can be read is the one that the path names. -/
theorem openForReading_file {handle : Handle} (opened : tree.openForReading path = .ok handle)
    (file : handle.isDirectory = false) : ∃ bytes, tree.get? handle.path = some (.file bytes) ∧
      tree.fileAt? path = some bytes := by
  have resolved := openForReading_ok opened
  rw [openForReading, resolved] at opened
  dsimp only at opened
  split at opened
  · cases opened
  · cases (congrArg Handle.isDirectory (Except.ok.inj opened)).trans file
  · next bytes held => exact ⟨bytes, held, fileAt?_eq resolved held⟩

/-- A file that is there is opened for reading. -/
theorem openForReading_of_fileAt? (held : tree.fileAt? path = some bytes) :
    ∃ place, tree.resolve path = .ok place ∧ tree.get? place = some (.file bytes) ∧
      tree.openForReading path = .ok ⟨place, false⟩ := by
  rw [fileAt?] at held
  split at held
  · cases held
  · next place resolved =>
    split at held
    · next other found =>
      obtain rfl := Option.some.inj held
      refine ⟨place, resolved, found, ?_⟩
      rw [openForReading, resolved]
      dsimp only
      rw [found]
    · cases held
    · cases held

/-- What an opened file holds after a file was created: nothing if that is the same one. -/
theorem contents_put {handle : Handle} (file : handle.isDirectory = false)
    (free : tree.get? place ≠ some .directory) (held : tree.get? handle.path = some (.file bytes)) :
    (tree.put place (.file [])).contents handle =
      .ok (if handle.path = place then [] else bytes) := by
  rw [contents, if_neg (by rw [file]; exact Bool.false_ne_true)]
  by_cases same : handle.path = place
  · rw [if_pos same, same, get?_put_same free]
  · rw [if_neg same, get?_put_other free _ same, held]

end OffloadCodec.FileTree
