import Reconciler.Proofs.Store.Disk
import Reconciler.Proofs.Store.Path

/-!
# Directories

The directories that a path leads through. A path that leads to something else than a directory
has a last name (`exists_name_of_goal`), the directory that a path lies in is there when the path
leads anywhere (`isDirectory_of_parent?`), and making directories adds to a disk without changing
what is there.
-/

set_option autoImplicit false

namespace Reconciler.Disk

variable {disk after : Disk} {location : Location} {path : String}

/-! ## Directories on the way -/

/-- A location to which a path has led step by step: it and all above it are directories. -/
def Walked (disk : Disk) (location : Location) : Prop :=
  ∀ part, part <+: location → disk.node? part = some .directory

/-- A path has led to a directory. -/
theorem Walked.node? (h : disk.Walked location) : disk.node? location = some .directory :=
  h location (List.prefix_refl location)

/-- The root and the current directory are where a path starts. -/
theorem walked_departure (disk : Disk) (path : String) : disk.Walked (departure path) := by
  unfold departure
  split
  · intro part hpart
    rcases List.prefix_cons_iff.mp hpart with rfl | ⟨rest, rfl, hrest⟩
    · exact if_pos (.inl rfl)
    · rw [List.prefix_nil.mp hrest]
      exact if_pos (.inr rfl)
  · intro part hpart
    rw [List.prefix_nil.mp hpart]
    exact if_pos (.inl rfl)

/-- What is above a location that a path has led to has been walked through as well. -/
theorem Walked.above (h : disk.Walked location) : disk.Walked location.above := by
  unfold Location.above
  split
  · next hroot => exact hroot ▸ h
  · exact fun part hpart => h part (hpart.trans (List.dropLast_prefix location))

/-- A step along a path leads to a directory below which all is walked. -/
theorem Walked.walk (h : disk.Walked location) {step : Path.Step} {reached : Location}
    (hwalk : disk.walk location step = .ok reached) : disk.Walked reached := by
  cases step with
  | stay =>
    cases hwalk
    exact h
  | up =>
    cases hwalk
    exact h.above
  | enter name =>
    obtain ⟨_, -, hnode⟩ := exists_of_bind_eq_ok hwalk
    split at hnode
    · next hfound =>
      cases hnode
      intro part hpart
      rcases List.prefix_concat_iff.mp hpart with rfl | hpart
      · exact hfound
      · exact h part hpart
    · cases hnode
    · cases hnode

/-- Steps along a path lead to a directory as one step does. -/
theorem Walked.foldlM {steps : List Path.Step} (h : disk.Walked location) {reached : Location}
    (hwalk : steps.foldlM disk.walk location = .ok reached) : disk.Walked reached := by
  induction steps generalizing location with
  | nil =>
    cases hwalk
    exact h
  | cons step rest ih =>
    rw [List.foldlM_cons] at hwalk
    obtain ⟨middle, hstep, hrest⟩ := exists_of_bind_eq_ok hwalk
    exact ih (h.walk hstep) hrest

/-- A path that leads to what is no directory is followed up to its last name. -/
theorem exists_name_of_approach {reached : Location} {target : Option String}
    (happroach : disk.approach path = .ok (reached, target))
    (hnode : disk.node? (reached ++ target.toList) ≠ some .directory) :
    ∃ name, (Path.steps path).getLast? = some (.enter name) ∧ target = some name := by
  obtain ⟨-, -, -, directory, hwalk, harrive⟩ := approach_eq_ok_iff.mp happroach
  have hwalked := (walked_departure disk path).foldlM hwalk
  cases hlast : (Path.steps path).getLast? with
  | none =>
    rw [hlast] at harrive
    cases harrive
    exact absurd (by simpa using hwalked.node?) hnode
  | some step =>
    rw [hlast] at harrive
    cases step with
    | stay =>
      cases harrive
      exact absurd (by simpa using hwalked.node?) hnode
    | up =>
      cases harrive
      exact absurd (by simpa using hwalked.above.node?) hnode
    | enter last =>
      obtain ⟨_, -, hname⟩ := exists_of_bind_eq_ok harrive
      cases hname
      exact ⟨last, rfl, rfl⟩

/-- A path that leads to what is no directory has a last name. -/
theorem exists_name_of_goal (hgoal : disk.goal path = .ok location)
    (hnode : disk.node? location ≠ some .directory) :
    ∃ directory name, (Path.steps path).getLast? = some (.enter name) ∧
      location = directory ++ [name] := by
  obtain ⟨reached, target, happroach, rfl⟩ := goal_eq_ok_iff.mp hgoal
  obtain ⟨name, hname, rfl⟩ := exists_name_of_approach happroach hnode
  exact ⟨reached, name, hname, rfl⟩

/-- A file can be moved to wherever a file can be put. -/
theorem Free.exists_rename {source target : String} {bytes : ByteArray} (h : disk.Free target)
    (hsource : disk.locate source = .ok (some (.file bytes))) :
    ∃ after, disk.rename source target = .ok after := by
  obtain ⟨place, hplace, hfile, hfound⟩ := locate_eq_some_iff.mp hsource
  obtain ⟨goal, hgoal, hnode, hasks⟩ := h
  obtain ⟨sourceDirectory, sourceName, hfrom, rfl⟩ := goal_eq_ok_iff.mp hplace
  obtain ⟨targetDirectory, targetName, hto, rfl⟩ := goal_eq_ok_iff.mp hgoal
  obtain ⟨_, -, rfl⟩ := exists_name_of_approach hfrom (by simp [hfile])
  obtain ⟨_, -, rfl⟩ := exists_name_of_approach hto hnode
  have hsourceAsks : Path.asksDirectory source = false := hfound.resolve_left nofun
  simp only [rename, hfrom, hto, bind, Except.bind, hfile, hsourceAsks, hasks]
  exact ⟨_, rfl⟩

/-- A name that another path does not lead to is not at the location of that path. -/
theorem ne_of_apart {other name : String} {directory : Location} (hapart : Path.Apart path other)
    (hname : (Path.steps path).getLast? = some (.enter name))
    (hgoal : disk.goal other = .ok location) (hnode : disk.node? location ≠ some .directory) :
    directory ++ [name] ≠ location := by
  obtain ⟨reached, target, htarget, rfl⟩ := exists_name_of_goal hgoal hnode
  exact fun heq => hapart name target hname htarget
    (List.singleton_inj.mp (List.append_inj_right' heq rfl))

/-- Paths to different names lead to different locations. -/
theorem goal_ne_of_apart {other : String} {bytes : ByteArray} (hapart : Path.Apart path other)
    (hthere : disk.locate path = .ok (some (.file bytes))) : disk.goal path ≠ disk.goal other := by
  intro hsame
  obtain ⟨location, hgoal, hnode, -⟩ := locate_eq_some_iff.mp hthere
  have hfile : disk.node? location ≠ some .directory := by simp [hnode]
  obtain ⟨directory, name, hname, rfl⟩ := exists_name_of_goal hgoal hfile
  exact ne_of_apart hapart hname (hsame.symm.trans hgoal) hfile rfl

/-- Where the last step leads through a directory, it is the directory that the path arrives at. -/
theorem arrive_of_walk {directory : Location} {step : Path.Step}
    (h : disk.walk directory step = .ok location) :
    ∃ reached name, arrive directory (some step) = .ok (reached, name) ∧
      location = reached ++ name.toList := by
  cases step with
  | stay =>
    cases h
    exact ⟨location, none, rfl, by simp⟩
  | up =>
    cases h
    exact ⟨directory.above, none, rfl, by simp⟩
  | enter name =>
    obtain ⟨⟨⟩, hname, hnode⟩ := exists_of_bind_eq_ok h
    split at hnode
    · cases hnode
      exact ⟨directory, some name, by rw [arrive, hname]; rfl, rfl⟩
    · cases hnode
    · cases hnode

/-- A path whose steps all lead through directories leads to a directory. -/
theorem isDirectory_of_foldlM (hempty : path ≠ "") (hzero : '\x00' ∉ path.toList)
    (hlong : path.utf8ByteSize ≤ longestPath)
    (hwalk : (Path.steps path).foldlM disk.walk (departure path) = .ok location) :
    disk.isDirectory path = true := by
  have hnode := ((walked_departure disk path).foldlM hwalk).node?
  have hgoal : disk.goal path = .ok location := by
    rw [goal_eq_ok_iff]
    simp only [approach_eq_ok_iff]
    rcases List.eq_nil_or_concat (Path.steps path) with hnil | ⟨before, step, hsteps⟩
    · rw [hnil] at hwalk ⊢
      cases hwalk
      exact ⟨_, none, ⟨hempty, hzero, hlong, _, rfl, rfl⟩, by simp⟩
    · rw [hsteps, List.concat_eq_append, List.foldlM_append] at hwalk
      obtain ⟨directory, hbefore, hstep⟩ := exists_of_bind_eq_ok hwalk
      obtain ⟨last, hlast, hdone⟩ := exists_of_bind_eq_ok hstep
      cases hdone
      obtain ⟨reached, name, harrive, hlocation⟩ := arrive_of_walk hlast
      refine ⟨reached, name, ⟨hempty, hzero, hlong, directory, ?_, ?_⟩, hlocation⟩
      · rw [hsteps, List.concat_eq_append, List.dropLast_concat]
        exact hbefore
      · rw [hsteps, List.concat_eq_append, List.getLast?_concat]
        exact harrive
  rw [isDirectory, locate_eq_some_iff.mpr ⟨location, hgoal, hnode, .inl rfl⟩]

/-- A path that can be taken up to its last name lies in a directory that is there. -/
theorem isDirectory_of_parent? {up : String} {arrival : Location × Option String}
    (happroach : disk.approach path = .ok arrival) (hup : Path.parent? path = some up)
    (hne : up ≠ "") : disk.isDirectory up = true := by
  rcases Path.parent?_cases hup hne with rfl | ⟨rest, hpath, hrest⟩
  · exact isDirectory_of_foldlM (by decide) (by decide) (by decide) rfl
  · obtain ⟨more, hmore, hsteps⟩ := Path.steps_of_append hpath hrest
    obtain ⟨-, hzero, hlong, directory, hwalk, -⟩ := approach_eq_ok_iff.mp happroach
    have hsplit : path = up ++ String.ofList ('/' :: rest) :=
      String.toList_inj.mp (by rw [String.toList_append, String.toList_ofList, hpath])
    rw [hsteps, List.dropLast_append_of_ne_nil hmore, List.foldlM_append] at hwalk
    obtain ⟨location, hfirst, -⟩ := exists_of_bind_eq_ok hwalk
    have hdeparture : departure path = departure up := by
      have hchars : up.toList ≠ [] := by simpa using hne
      rw [departure, departure, Path.isAbsolute, Path.isAbsolute, hpath,
        List.head?_append, Option.or_of_isSome (List.isSome_head?.mpr hchars)]
    refine isDirectory_of_foldlM hne ?_ ?_ (hdeparture ▸ hfirst)
    · intro hmem
      exact hzero (hpath ▸ List.mem_append_left _ hmem)
    · rw [hsplit, String.utf8ByteSize_append] at hlong
      omega

/-! ## Making directories -/

/-- A directory that was made is there, and nothing else has changed. -/
theorem makeDirectory_of_ok (h : disk.makeDirectory path = .ok after) :
    disk.Extends after ∧ after.isDirectory path = true := by
  obtain ⟨location, hgoal, hput⟩ := exists_of_bind_eq_ok h
  split at hput
  · cases hput
  · next hnone =>
    cases hput
    have hextends := extends_put .directory hnone
    have hlocate := locate_eq_some_iff.mpr ⟨location,
      goal_of_keeps hextends.keepsDirectories hgoal,
      node?_put_self .directory (by simp [hnone]), .inl rfl⟩
    refine ⟨hextends, ?_⟩
    rw [isDirectory, hlocate]

/-- Seeing to a directory only adds to the disk. -/
theorem ensureDirectory_extends (disk : Disk) (path : String) :
    disk.Extends (disk.ensureDirectory path).2 := by
  cases hmade : disk.makeDirectory path with
  | error error =>
    simp only [ensureDirectory, hmade, attempt]
    exact .refl disk
  | ok after =>
    simp only [ensureDirectory, hmade, attempt]
    exact (makeDirectory_of_ok hmade).1

/-- A directory that was seen to is there. -/
theorem isDirectory_of_ensureDirectory (h : (disk.ensureDirectory path).1 = .ok ()) :
    (disk.ensureDirectory path).2.isDirectory path = true := by
  cases hmade : disk.makeDirectory path with
  | error error =>
    simp only [ensureDirectory, hmade, attempt] at h ⊢
    split at h
    · next hthere => exact hthere
    · cases h
  | ok after =>
    simp only [ensureDirectory, hmade, attempt]
    exact (makeDirectory_of_ok hmade).2

/-- Making directories leaves what is there, whether or not it works. -/
theorem makeWithin_extends (disk : Disk) (paths : List String) :
    disk.Extends (disk.makeWithin paths).2 := by
  induction paths generalizing disk with
  | nil => exact .refl disk
  | cons path rest ih =>
    have hfirst := ensureDirectory_extends disk path
    simp only [makeWithin]
    split
    · next first hmissing =>
      rw [hmissing] at hfirst
      have hrest := hfirst.trans (ih first)
      split
      · next last hmade =>
        rw [hmade] at hrest
        exact hrest.trans (ensureDirectory_extends last path)
      · exact hrest
    · exact hfirst

/-- Making the innermost of some directories leaves it there. -/
theorem isDirectory_of_makeWithin {rest : List String}
    (h : (disk.makeWithin (path :: rest)).1 = .ok ()) :
    (disk.makeWithin (path :: rest)).2.isDirectory path = true := by
  simp only [makeWithin] at h ⊢
  split at h
  · split at h
    · exact isDirectory_of_ensureDirectory h
    · next hfailed => exact (hfailed _ (Prod.ext h rfl)).elim
  · exact isDirectory_of_ensureDirectory h

/-- Making directories only adds to the disk. -/
theorem makeDirectories_extends (disk : Disk) (path : String) :
    disk.Extends (disk.makeDirectories path).2 :=
  makeWithin_extends disk (Path.ancestors path)

/-- Directories that were made are there; for a path that lies in no directory there is nothing to
make on any disk. -/
theorem contains_of_makeDirectories (h : (disk.makeDirectories path).1 = .ok ()) :
    (∀ other : Disk, other.makeDirectories path = (.ok (), other)) ∨
      (disk.makeDirectories path).2.contains path = true := by
  unfold makeDirectories at h ⊢
  rw [Path.ancestors] at h ⊢
  split at h
  · exact .inl fun other => rfl
  · exact .inr (contains_of_isDirectory (isDirectory_of_makeWithin h))

end Reconciler.Disk
