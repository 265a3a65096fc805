import Reconciler.Store.Disk

/-!
# Actions that work

What an action on a disk comes to when it works: the locations that its paths lead to, and the
disk after it (`writeBytes_of_ok`, `rename_of_ok`). A path that leads somewhere leads there as
long as the directories stay (`KeepsDirectories`), and what is at a path is still there on a disk
that has more on it (`Extends`).
-/

set_option autoImplicit false

namespace Reconciler

/-- Two results in a row are there when both are. -/
theorem exists_of_bind_eq_ok {ε α β : Type} {first : Except ε α} {next : α → Except ε β}
    {result : β} (h : first >>= next = .ok result) :
    ∃ value, first = .ok value ∧ next value = .ok result := by
  cases first with
  | error error => cases h
  | ok value => exact ⟨value, rfl, h⟩

namespace Disk

variable {disk after : Disk} {location other : Location} {path : String}

/-! ## Nodes -/

/-- What is put at a location leaves the others as they are. -/
theorem node?_put_of_ne (node : Node) (h : other ≠ location) :
    (disk.put location node).node? other = disk.node? other := by
  simp only [node?, put, Std.ExtTreeMap.getElem?_insert]
  rw [if_neg (fun heq => h (Std.LawfulEqOrd.eq_of_compare heq).symm)]

/-- What is put at a location is there, unless it is a directory already. -/
theorem node?_put_self (node : Node) (h : disk.node? location ≠ some .directory) :
    (disk.put location node).node? location = some node := by
  have hplace : ¬(location = .current ∨ location = .root) := fun hplace =>
    h (if_pos hplace)
  rw [node?, if_neg hplace, put, Std.ExtTreeMap.getElem?_insert_self]

/-- Clearing a location leaves the others as they are. -/
theorem node?_clear_of_ne (h : other ≠ location) :
    (disk.clear location).node? other = disk.node? other := by
  simp only [node?, clear, Std.ExtTreeMap.getElem?_erase]
  rw [if_neg (fun heq => h (Std.LawfulEqOrd.eq_of_compare heq).symm)]

/-- Clearing a location makes no directory. -/
theorem node?_clear_ne_directory (h : disk.node? other ≠ some .directory) :
    (disk.clear location).node? other ≠ some .directory := by
  by_cases heq : other = location
  · subst heq
    have hplace : ¬(other = .current ∨ other = .root) := fun hplace => h (if_pos hplace)
    simp [node?, hplace, clear]
  · rwa [node?_clear_of_ne heq]

/-- Every directory of the first disk is one of the second. -/
def KeepsDirectories (disk after : Disk) : Prop :=
  ∀ location, disk.node? location = some .directory → after.node? location = some .directory

/-- Directories that stay twice stay. -/
theorem KeepsDirectories.trans {last : Disk} (hfirst : disk.KeepsDirectories after)
    (hsecond : after.KeepsDirectories last) : disk.KeepsDirectories last :=
  fun location h => hsecond location (hfirst location h)

/-- Putting a file where there is no directory keeps all directories. -/
theorem keepsDirectories_put (node : Node) (h : disk.node? location ≠ some .directory) :
    disk.KeepsDirectories (disk.put location node) := fun other hother => by
  have hne : other ≠ location := by
    rintro rfl
    exact h hother
  rw [node?_put_of_ne node hne, hother]

/-- Clearing a location where there is no directory keeps all directories. -/
theorem keepsDirectories_clear (h : disk.node? location ≠ some .directory) :
    disk.KeepsDirectories (disk.clear location) := fun other hother => by
  have hne : other ≠ location := by
    rintro rfl
    exact h hother
  rw [node?_clear_of_ne hne, hother]

/-- Everything on the first disk is on the second. -/
def Extends (disk after : Disk) : Prop :=
  ∀ location node, disk.node? location = some node → after.node? location = some node

/-- A disk extends itself. -/
theorem Extends.refl (disk : Disk) : disk.Extends disk := fun _ _ h => h

/-- Adding to a disk twice is adding to it. -/
theorem Extends.trans {last : Disk} (hfirst : disk.Extends after) (hsecond : after.Extends last) :
    disk.Extends last :=
  fun location node h => hsecond location node (hfirst location node h)

/-- A disk that has more has all directories. -/
theorem Extends.keepsDirectories (h : disk.Extends after) : disk.KeepsDirectories after :=
  fun location => h location .directory

/-- Putting something where there was nothing adds to the disk. -/
theorem extends_put (node : Node) (h : disk.node? location = none) :
    disk.Extends (disk.put location node) := fun other found hother => by
  have hne : other ≠ location := by
    rintro rfl
    rw [h] at hother
    cases hother
  rw [node?_put_of_ne node hne, hother]

/-! ## Ways -/

/-- A step leads to where it led as long as the directories stay. -/
theorem walk_of_keeps (hkeeps : disk.KeepsDirectories after) {directory reached : Location}
    {step : Path.Step} (h : disk.walk directory step = .ok reached) :
    after.walk directory step = .ok reached := by
  cases step with
  | stay => exact h
  | up => exact h
  | enter name =>
    obtain ⟨_, hname, hnode⟩ := exists_of_bind_eq_ok h
    cases hfound : disk.node? (directory ++ [name]) with
    | none => simp [hfound] at hnode
    | some node =>
      cases node with
      | file bytes => simp [hfound] at hnode
      | directory =>
        rw [hfound] at hnode
        simp only [walk, hname, hkeeps _ hfound]
        exact hnode

/-- Steps lead to where they led as long as the directories stay. -/
theorem foldlM_walk_of_keeps (hkeeps : disk.KeepsDirectories after) {steps : List Path.Step}
    {directory reached : Location} (h : steps.foldlM disk.walk directory = .ok reached) :
    steps.foldlM after.walk directory = .ok reached := by
  induction steps generalizing directory with
  | nil => exact h
  | cons step rest ih =>
    rw [List.foldlM_cons] at h ⊢
    obtain ⟨middle, hstep, hrest⟩ := exists_of_bind_eq_ok h
    rw [walk_of_keeps hkeeps hstep]
    exact ih hrest

/-- What the last step of a path makes of the directory before it. -/
def arrive (directory : Location) :
    Option Path.Step → Except FileError (Location × Option String)
  | some (.enter name) => do
    checkName name
    return (directory, some name)
  | some .up => .ok (directory.above, none)
  | _ => .ok (directory, none)

def departure (path : String) : Location :=
  if Path.isAbsolute path then .root else .current

/-- A path leads somewhere when it can be taken up and every step but the last leads to a
directory. -/
theorem approach_eq_ok_iff {arrival : Location × Option String} :
    disk.approach path = .ok arrival ↔
      path ≠ "" ∧ '\x00' ∉ path.toList ∧ path.utf8ByteSize ≤ longestPath ∧
      ∃ directory, (Path.steps path).dropLast.foldlM disk.walk (departure path) = .ok directory ∧
        arrive directory (Path.steps path).getLast? = .ok arrival := by
  have hthrow {α β : Type} (error : FileError) (next : α → Except FileError β) (result : β) :
      ¬(throw error >>= next : Except FileError β) = .ok result := fun h => by cases h
  simp only [approach]
  split
  · next hempty => simp [hempty, hthrow]
  next hempty =>
  split
  · next hzero => simp [hzero, hthrow]
  next hzero =>
  split
  · next hlong => simp [Nat.not_le.mpr hlong, hthrow]
  next hlong =>
  constructor
  · intro h
    exact ⟨hempty, hzero, Nat.not_lt.mp hlong, exists_of_bind_eq_ok h⟩
  · rintro ⟨-, -, -, directory, hwalk, hend⟩
    exact (congrArg (· >>= _) hwalk).trans hend

/-- A path is approached as before as long as the directories stay. -/
theorem approach_of_keeps (hkeeps : disk.KeepsDirectories after)
    {arrival : Location × Option String} (h : disk.approach path = .ok arrival) :
    after.approach path = .ok arrival := by
  obtain ⟨hempty, hzero, hlong, directory, hwalk, harrive⟩ := approach_eq_ok_iff.mp h
  exact approach_eq_ok_iff.mpr
    ⟨hempty, hzero, hlong, directory, foldlM_walk_of_keeps hkeeps hwalk, harrive⟩

/-- The goal of a path is the directory that it approaches with the name that is left. -/
theorem goal_eq_ok_iff :
    disk.goal path = .ok location ↔
      ∃ directory name, disk.approach path = .ok (directory, name) ∧
        location = directory ++ name.toList := by
  rw [goal]
  constructor
  · intro h
    obtain ⟨⟨directory, name⟩, happroach, hgoal⟩ := exists_of_bind_eq_ok h
    cases hgoal
    exact ⟨directory, name, happroach, rfl⟩
  · rintro ⟨directory, name, happroach, rfl⟩
    rw [happroach]
    rfl

/-- A path has the same goal as long as the directories stay. -/
theorem goal_of_keeps (hkeeps : disk.KeepsDirectories after) (h : disk.goal path = .ok location) :
    after.goal path = .ok location := by
  obtain ⟨directory, name, happroach, hlocation⟩ := goal_eq_ok_iff.mp h
  exact goal_eq_ok_iff.mpr ⟨directory, name, approach_of_keeps hkeeps happroach, hlocation⟩

/-! ## What is at a path -/

/-- Only a file is kept from a path that asks for a directory. -/
theorem locate_eq_some_iff {node : Node} :
    disk.locate path = .ok (some node) ↔
      ∃ location, disk.goal path = .ok location ∧ disk.node? location = some node ∧
        (node = .directory ∨ Path.asksDirectory path = false) := by
  rw [locate]
  constructor
  · intro h
    obtain ⟨location, hgoal, hnode⟩ := exists_of_bind_eq_ok h
    refine ⟨location, hgoal, ?_⟩
    split at hnode
    · next bytes hfound =>
      split at hnode
      · cases hnode
      · next hasks =>
        cases hnode
        exact ⟨hfound, .inr (by simpa using hasks)⟩
    · next hother =>
      have hfound := Except.ok.inj hnode
      cases node with
      | file bytes => exact absurd hfound (hother bytes)
      | directory => exact ⟨hfound, .inl rfl⟩
  · rintro ⟨location, hgoal, hnode, hasks⟩
    simp only [hgoal, bind, Except.bind, hnode]
    cases node with
    | file bytes =>
      rcases hasks with hdirectory | hasks
      · cases hdirectory
      · rw [hasks]
        rfl
    | directory => rfl

/-- What is at a path is there on a disk with more on it. -/
theorem locate_of_extends (hextends : disk.Extends after) {node : Node}
    (h : disk.locate path = .ok (some node)) : after.locate path = .ok (some node) := by
  obtain ⟨location, hgoal, hnode, hasks⟩ := locate_eq_some_iff.mp h
  exact locate_eq_some_iff.mpr ⟨location, goal_of_keeps hextends.keepsDirectories hgoal,
    hextends location node hnode, hasks⟩

/-- A path with something at it contains something. -/
theorem contains_of_locate {node : Node} (h : disk.locate path = .ok (some node)) :
    disk.contains path = true := by
  rw [contains, h]

/-- A path to a directory contains something. -/
theorem contains_of_isDirectory (h : disk.isDirectory path = true) : disk.contains path = true := by
  rw [isDirectory] at h
  split at h
  · next hlocate => exact contains_of_locate hlocate
  · cases h

/-- The bytes that are read at a path are those of the file there. -/
theorem readBytes_eq_ok_iff {bytes : ByteArray} :
    disk.readBytes path = .ok bytes ↔ disk.locate path = .ok (some (.file bytes)) := by
  constructor
  · intro h
    obtain ⟨found, hlocate, hbytes⟩ := exists_of_bind_eq_ok h
    rw [hlocate]
    split at hbytes
    · cases hbytes
    · cases hbytes
    · cases hbytes
      rfl
  · intro h
    rw [readBytes, h]
    rfl

/-- A text is read when the bytes of the file decode to it. -/
theorem exists_of_readText {text : String} (h : disk.readText path = .ok text) :
    ∃ bytes, disk.locate path = .ok (some (.file bytes)) ∧ String.fromUTF8? bytes = some text := by
  obtain ⟨bytes, hbytes, htext⟩ := exists_of_bind_eq_ok h
  refine ⟨bytes, readBytes_eq_ok_iff.mp hbytes, ?_⟩
  split at htext
  · next hsome =>
    cases htext
    exact hsome
  · cases htext

/-- A text is read from a file only. -/
theorem isFile_of_readText {text : String} (h : disk.readText path = .ok text) :
    disk.isFile path = true := by
  obtain ⟨bytes, hbytes, -⟩ := exists_of_readText h
  rw [isFile, hbytes]

/-- A file whose bytes decode to a text is read as that text. -/
theorem readText_of_locate {text : String} {bytes : ByteArray}
    (hbytes : disk.locate path = .ok (some (.file bytes)))
    (htext : String.fromUTF8? bytes = some text) : disk.readText path = .ok text := by
  simp only [readText, readBytes_eq_ok_iff.mpr hbytes, bind, Except.bind, htext]
  rfl

/-- A file with the bytes of a text is read as that text. -/
theorem readText_of_file {text : String} (h : disk.locate path = .ok (some (.file text.toUTF8))) :
    disk.readText path = .ok text :=
  readText_of_locate h (dif_pos text.isValidUTF8)

/-- Files with different texts are at different locations. -/
theorem goal_ne_of_readText {other text different : String}
    (hpath : disk.readText path = .ok text) (hother : disk.readText other = .ok different)
    (hne : text ≠ different) : disk.goal other ≠ disk.goal path := by
  intro hsame
  obtain ⟨bytes, hbytes, htext⟩ := exists_of_readText hpath
  obtain ⟨otherBytes, hotherBytes, hdifferent⟩ := exists_of_readText hother
  obtain ⟨location, hgoal, hnode, -⟩ := locate_eq_some_iff.mp hbytes
  obtain ⟨place, hplace, hplaced, -⟩ := locate_eq_some_iff.mp hotherBytes
  rw [hsame, hgoal] at hplace
  cases hplace
  rw [hnode] at hplaced
  cases hplaced
  rw [htext] at hdifferent
  exact hne (Option.some.inj hdifferent)

/-! ## Actions -/

/-- Writing a file puts it at the goal of its path, where no directory was. -/
theorem writeBytes_of_ok {bytes : ByteArray} (h : disk.writeBytes path bytes = .ok after) :
    ∃ location, disk.goal path = .ok location ∧ disk.node? location ≠ some .directory ∧
      Path.asksDirectory path = false ∧ after = disk.put location (.file bytes) := by
  obtain ⟨location, hgoal, hput⟩ := exists_of_bind_eq_ok h
  refine ⟨location, hgoal, ?_⟩
  split at hput
  · cases hput
  · next hnode =>
    split at hput
    · cases hput
    · next hasks =>
      cases hput
      exact ⟨hnode, by simpa using hasks, rfl⟩

/-- A file that was written is at its path. -/
theorem locate_of_writeBytes {bytes : ByteArray} (h : disk.writeBytes path bytes = .ok after) :
    after.locate path = .ok (some (.file bytes)) := by
  obtain ⟨location, hgoal, hnode, hasks, rfl⟩ := writeBytes_of_ok h
  exact locate_eq_some_iff.mpr ⟨location, goal_of_keeps (keepsDirectories_put _ hnode) hgoal,
    node?_put_self _ hnode, .inr hasks⟩

/-- A file can be put at a path: the path leads somewhere, and to no directory. -/
def Free (disk : Disk) (path : String) : Prop :=
  ∃ location, disk.goal path = .ok location ∧ disk.node? location ≠ some .directory ∧
    Path.asksDirectory path = false

/-- A file can be put where an empty one can be made. -/
theorem free_of_writeBytes (h : disk.writeBytes path .empty = .ok after) : disk.Free path := by
  obtain ⟨location, hgoal, hnode, hasks, -⟩ := writeBytes_of_ok h
  exact ⟨location, hgoal, hnode, hasks⟩

/-- Where a file is, another one can be put. -/
theorem free_of_locate {bytes : ByteArray} (h : disk.locate path = .ok (some (.file bytes))) :
    disk.Free path := by
  obtain ⟨location, hgoal, hnode, hasks⟩ := locate_eq_some_iff.mp h
  exact ⟨location, hgoal, by simp [hnode], hasks.resolve_left nofun⟩

/-- A file can be written at a free path. -/
theorem Free.exists_writeBytes (h : disk.Free path) (bytes : ByteArray) :
    ∃ after, disk.writeBytes path bytes = .ok after := by
  obtain ⟨location, hgoal, hnode, hasks⟩ := h
  refine ⟨disk.put location (.file bytes), ?_⟩
  rw [writeBytes, hgoal]
  simp only [bind, Except.bind, hasks]
  rfl

/-- A text that is added to an empty file is what is in the file. -/
theorem locate_of_append {text : String} (hempty : disk.locate path = .ok (some (.file .empty)))
    (h : (do disk.writeBytes path ((← disk.readBytes path) ++ text.toUTF8)) = .ok after) :
    after.locate path = .ok (some (.file text.toUTF8)) := by
  obtain ⟨bytes, hbytes, hwrite⟩ := exists_of_bind_eq_ok h
  rw [readBytes_eq_ok_iff, hempty] at hbytes
  cases hbytes
  rw [locate_of_writeBytes hwrite, ByteArray.empty_append]

/-- A copy writes the bytes of some file at its target. -/
theorem copy_of_ok {source target : String} (h : disk.copy source target = .ok after) :
    ∃ bytes, disk.writeBytes target bytes = .ok after := by
  obtain ⟨found, -, hcopy⟩ := exists_of_bind_eq_ok h
  split at hcopy
  · cases hcopy
  · cases hcopy
  · obtain ⟨first, -, hrest⟩ := exists_of_bind_eq_ok hcopy
    obtain ⟨second, -, hwrite⟩ := exists_of_bind_eq_ok hrest
    exact ⟨_, hwrite⟩

/-- A file that is copied to another location has its bytes there. -/
theorem writeBytes_of_copy {source target : String} {bytes : ByteArray}
    (hsource : disk.locate source = .ok (some (.file bytes)))
    (hapart : disk.goal source ≠ disk.goal target) (h : disk.copy source target = .ok after) :
    disk.writeBytes target bytes = .ok after := by
  obtain ⟨found, hfound, hcopy⟩ := exists_of_bind_eq_ok h
  rw [hsource] at hfound
  cases hfound
  obtain ⟨place, hplace, hrest⟩ := exists_of_bind_eq_ok hcopy
  obtain ⟨target, htarget, hwrite⟩ := exists_of_bind_eq_ok hrest
  have hne : place ≠ target := by
    rintro rfl
    exact hapart (hplace.trans htarget.symm)
  dsimp only at hwrite
  rwa [if_neg hne] at hwrite

/-- A file can be copied to wherever a file can be put. -/
theorem Free.exists_copy {source target : String} {bytes : ByteArray} (h : disk.Free target)
    (hsource : disk.locate source = .ok (some (.file bytes))) :
    ∃ after, disk.copy source target = .ok after := by
  obtain ⟨place, hplace, -, -⟩ := locate_eq_some_iff.mp hsource
  obtain ⟨goal, hgoal, -, -⟩ := id h
  simp only [copy, hsource, hplace, hgoal, bind, Except.bind]
  exact h.exists_writeBytes _

/-- Moving a file takes it from the goal of one path and puts it at that of the other, where no
directory was. -/
theorem rename_of_ok {source target : String} (h : disk.rename source target = .ok after) :
    ∃ place goal bytes, disk.goal source = .ok place ∧ disk.goal target = .ok goal ∧
      disk.node? place = some (.file bytes) ∧ disk.node? goal ≠ some .directory ∧
      Path.asksDirectory target = false ∧
      after = (disk.clear place).put goal (.file bytes) := by
  obtain ⟨⟨sourceDirectory, sourceName⟩, hsource, hrest⟩ := exists_of_bind_eq_ok h
  obtain ⟨⟨targetDirectory, targetName⟩, htarget, hrename⟩ := exists_of_bind_eq_ok hrest
  dsimp only at hrename
  split at hrename
  · cases hrename
  split at hrename
  · cases hrename
  · cases hrename
  split at hrename
  · cases hrename
  next hasks =>
  split at hrename
  · cases hrename
  next hother =>
  cases hrename
  exact ⟨_, _, _, goal_eq_ok_iff.mpr ⟨_, _, hsource, rfl⟩, goal_eq_ok_iff.mpr ⟨_, _, htarget, rfl⟩,
    by assumption, by simpa using hother, by simp_all, rfl⟩

/-- A file that was moved is at the path to which it was moved. -/
theorem locate_of_rename {source target : String} {bytes : ByteArray}
    (hsource : disk.locate source = .ok (some (.file bytes)))
    (h : disk.rename source target = .ok after) :
    after.locate target = .ok (some (.file bytes)) := by
  obtain ⟨place, goal, moved, hplace, hgoal, hmoved, hfree, hasks, rfl⟩ := rename_of_ok h
  obtain ⟨location, hlocation, hbytes, -⟩ := locate_eq_some_iff.mp hsource
  rw [hplace] at hlocation
  cases hlocation
  rw [hmoved] at hbytes
  cases hbytes
  have hclear : disk.KeepsDirectories (disk.clear place) :=
    keepsDirectories_clear (by simp [hmoved])
  have hstill : (disk.clear place).node? goal ≠ some .directory := node?_clear_ne_directory hfree
  exact locate_eq_some_iff.mpr ⟨goal,
    goal_of_keeps (hclear.trans (keepsDirectories_put _ hstill)) hgoal,
    node?_put_self _ hstill, .inr hasks⟩

/-- An attempt that works leaves the disk of its result. -/
theorem attempt_of_ok {result : Except FileError Disk} (h : (disk.attempt result).1 = .ok ()) :
    ∃ after, result = .ok after ∧ disk.attempt result = (.ok (), after) := by
  cases result with
  | error error => cases h
  | ok after => exact ⟨after, rfl, rfl⟩

/-- A result that works is an attempt that works. -/
theorem attempt_of_eq_ok {result : Except FileError Disk} (h : result = .ok after) :
    disk.attempt result = (.ok (), after) := by
  rw [h]
  rfl

/-- A disk that an attempt left was its result. -/
theorem eq_ok_of_attempt {result : Except FileError Disk}
    (h : disk.attempt result = (.ok (), after)) : result = .ok after := by
  obtain ⟨changed, hresult, hattempt⟩ := attempt_of_ok (congrArg Prod.fst h)
  rw [hattempt] at h
  cases h
  exact hresult

end Disk

end Reconciler
