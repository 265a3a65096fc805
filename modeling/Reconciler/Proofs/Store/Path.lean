import Mathlib.Data.List.TakeWhile
import Reconciler.Store.Path

/-!
# The last name of a path

A path is a directory and a name behind its last separator, and the name is its last step unless
it is one or two dots. A path with another extension has a last name with that extension
(`getLast?_steps_withExtension`), apart from a path that leads to a directory, which stays as it
is.
-/

set_option autoImplicit false

namespace Reconciler.Path

/-! ## Names between separators -/

/-- A cut has one piece at least. -/
theorem cut_ne_nil (chars : List Char) : cut chars ≠ [] := by
  fun_cases cut chars <;> simp_all

/-- A text is cut at each separator. -/
theorem cut_append (front back : List Char) :
    cut (front ++ '/' :: back) = cut front ++ cut back := by
  induction front with
  | nil => rfl
  | cons c rest ih =>
    by_cases hc : c = '/'
    · subst hc
      exact congrArg ([] :: ·) ih
    · cases hrest : cut rest with
      | nil => exact absurd hrest (cut_ne_nil rest)
      | cons name names => simp [cut, ih, hrest]

/-- A name without separators is one piece. -/
theorem cut_of_notMem {name : List Char} (h : '/' ∉ name) : cut name = [name] := by
  induction name with
  | nil => rfl
  | cons c rest ih =>
    have hc : c ≠ '/' := fun heq => h (heq ▸ List.mem_cons_self)
    simp [cut, ih fun hrest => h (List.mem_cons_of_mem _ hrest)]

/-- The last name of a path that is not empty. -/
def lastName (chars : List Char) : Option (List Char) :=
  ((cut chars).filter (· ≠ [])).getLast?

/-- The last step of a path is made from its last name. -/
theorem getLast?_steps (path : String) :
    (steps path).getLast? = (lastName path.toList).map Step.ofChars := by
  rw [steps, lastName, List.getLast?_map]

/-- A separator at the end does not change the last name. -/
theorem lastName_append_separator (chars : List Char) :
    lastName (chars ++ ['/']) = lastName chars := by
  rw [lastName, cut_append, List.filter_append]
  simp [lastName, cut]

/-- A name behind a separator, or alone, is the last one. -/
theorem lastName_append {directory name : List Char}
    (hdirectory : ∀ c ∈ directory.getLast?, c = '/') (hname : '/' ∉ name) (hne : name ≠ []) :
    lastName (directory ++ name) = some name := by
  rcases List.eq_nil_or_concat directory with rfl | ⟨front, c, rfl⟩
  · simp [lastName, cut_of_notMem hname, hne]
  · obtain rfl : c = '/' := hdirectory c (by simp)
    have hsplit : front ++ ['/'] ++ name = front ++ '/' :: name := by simp
    rw [List.concat_eq_append, hsplit, lastName, cut_append, cut_of_notMem hname,
      List.filter_append]
    simp [hne]

/-! ## Paths written backwards -/

def backName (chars : List Char) : List Char :=
  (chars.takeWhile (· != '/')).reverse

def backDirectory (chars : List Char) : List Char :=
  (chars.dropWhile (· != '/')).reverse

/-- Written backwards, a path is its directory and the name behind it. -/
theorem backDirectory_append_backName (chars : List Char) :
    backDirectory chars ++ backName chars = chars.reverse := by
  rw [backDirectory, backName, ← List.reverse_append, List.takeWhile_append_dropWhile]

/-- There is no separator in the name behind the last one. -/
theorem notMem_backName (chars : List Char) : '/' ∉ backName chars := fun h => by
  have hmem := List.mem_takeWhile_imp (List.mem_reverse.mp h)
  simp at hmem

/-- The directory before a name is empty or ends in a separator. -/
theorem getLast?_backDirectory (chars : List Char) :
    ∀ c ∈ (backDirectory chars).getLast?, c = '/' := by
  intro c hc
  rw [backDirectory, List.getLast?_reverse] at hc
  have hhead := List.head?_dropWhile_not (· != '/') chars
  rw [Option.mem_def.mp hc] at hhead
  simpa using hhead

/-- The last name of a path is a single dot or the name behind its last separator. -/
theorem lastName_cases (chars : List Char) :
    ∀ name ∈ lastName chars.reverse, name = ['.'] ∨ name = backName (settled chars) := by
  fun_induction settled chars with
  | case1 rest ih =>
    rw [List.reverse_cons, lastName_append_separator]
    exact ih
  | case2 rest ih =>
    have hdot : lastName ((rest.reverse ++ ['/']) ++ ['.']) = some ['.'] :=
      lastName_append (by simp) (by simp) (by simp)
    rw [List.reverse_cons, List.reverse_cons, hdot]
    rintro name ⟨⟩
    exact .inl rfl
  | case3 chars hseparator hdot =>
    intro name hname
    by_cases hne : backName chars = []
    · cases chars with
      | nil => cases hname
      | cons c rest =>
        have hc : c ≠ '/' := fun heq => hseparator rest (by rw [heq])
        simp [backName, hc] at hne
    · rw [← backDirectory_append_backName, lastName_append (getLast?_backDirectory chars)
        (notMem_backName chars) hne] at hname
      cases hname
      exact .inr rfl

/-- Whether a path has no name, or only dots, behind its last separator. -/
def EndsInDots (path : String) : Prop :=
  backName (settled path.toList.reverse) = [] ∨ backName (settled path.toList.reverse) = ['.'] ∨
    backName (settled path.toList.reverse) = ['.', '.']

instance (path : String) : Decidable (EndsInDots path) :=
  inferInstanceAs (Decidable (_ ∨ _ ∨ _))

/-- A path that leads to a name leads to the one behind its last separator. -/
theorem toList_of_enter {path name : String} (h : (steps path).getLast? = some (.enter name)) :
    ¬EndsInDots path ∧ name.toList = backName (settled path.toList.reverse) := by
  rw [getLast?_steps] at h
  obtain ⟨last, hlast, hstep⟩ := Option.map_eq_some_iff.mp h
  have hne : last ≠ [] := by simpa using (List.mem_filter.mp (List.mem_of_getLast? hlast)).2
  rw [Step.ofChars] at hstep
  split at hstep
  · cases hstep
  next hdot =>
  split at hstep
  · cases hstep
  next hdots =>
  cases hstep
  have hback :=
    (lastName_cases path.toList.reverse last (by rwa [List.reverse_reverse])).resolve_left
    hdot
  rw [EndsInDots, ← hback, String.toList_ofList]
  exact ⟨by simp [hne, hdot, hdots], rfl⟩

/-- A stem has the characters of its name only. -/
theorem mem_of_mem_stem {name : List Char} {c : Char} (h : c ∈ stem name) : c ∈ name := by
  unfold stem at h
  split at h
  · exact h
  · exact h
  · next dot before _ hbefore =>
    have hsuffix := List.dropWhile_suffix (· != '.') (l := name.reverse)
    rw [hbefore] at hsuffix
    exact List.mem_reverse.mp
      (hsuffix.subset (List.mem_cons_of_mem dot (List.mem_reverse.mp h)))

/-- A name of more than two characters is a step into what it names. -/
theorem ofChars_of_lt {name : List Char} (h : 2 < name.length) :
    Step.ofChars name = .enter (String.ofList name) := by
  rw [Step.ofChars, if_neg fun heq => by simp [heq] at h, if_neg fun heq => by simp [heq] at h]

/-- The path with another extension has the same directory and the same stem. -/
theorem toList_withExtension {path : String} (h : ¬EndsInDots path) (extension : String) :
    (withExtension path extension).toList = backDirectory (settled path.toList.reverse) ++
      (stem (backName (settled path.toList.reverse)) ++ '.' :: extension.toList) := by
  show (if EndsInDots path then path else _).toList = _
  rw [if_neg h]
  simp [backDirectory, backName]

/-- The last step along the path with another extension enters the stem with that extension. -/
theorem getLast?_steps_withExtension {path extension : String} (hdots : ¬EndsInDots path)
    (hplain : '/' ∉ extension.toList) (hlong : 1 < extension.length) :
    (steps (withExtension path extension)).getLast? = some (.enter (String.ofList
      (stem (backName (settled path.toList.reverse)) ++ '.' :: extension.toList))) := by
  have hname : '/' ∉ stem (backName (settled path.toList.reverse)) ++ '.' :: extension.toList := by
    simp only [List.mem_append, List.mem_cons, not_or]
    exact ⟨fun h => notMem_backName _ (mem_of_mem_stem h), by decide, hplain⟩
  have hlength : 2 < (stem (backName (settled path.toList.reverse)) ++
      '.' :: extension.toList).length := by
    rw [List.length_append, List.length_cons, String.length_toList]
    omega
  rw [getLast?_steps, toList_withExtension hdots,
    lastName_append (getLast?_backDirectory _) hname (by simp), Option.map_some,
    ofChars_of_lt hlength]

/-- The last step of a path with another extension is to the name with that extension, unless the
path is left as it is because its own last step is to no name. -/
theorem withExtension_cases (path : String) :
    (∃ stem, ∀ extension : String, '/' ∉ extension.toList → 1 < extension.length →
      (steps (withExtension path extension)).getLast? =
        some (.enter (String.ofList (stem ++ '.' :: extension.toList)))) ∨
    (∀ extension, withExtension path extension = path) ∧
      ∀ name, (steps path).getLast? ≠ some (.enter name) := by
  by_cases hdots : EndsInDots path
  · exact .inr ⟨fun extension => if_pos hdots, fun name hlast =>
      (toList_of_enter hlast).1 hdots⟩
  · exact .inl ⟨stem (backName (settled path.toList.reverse)), fun _ hplain hlong =>
      getLast?_steps_withExtension hdots hplain hlong⟩

/-! ## The extension of a path -/

/-- The extension of a path: what stands behind the last dot of its name, unless that dot is the
first character. -/
def extension? (path : String) : Option String :=
  if EndsInDots path then none
  else match (backName (settled path.toList.reverse)).reverse.dropWhile (· != '.') with
    | [] => none
    | ['.'] => none
    | _ => some (String.ofList
      ((backName (settled path.toList.reverse)).reverse.takeWhile (· != '.')).reverse)

/-- A name that is its stem with an extension is cut at the dot between the two. -/
theorem span_reverse_of_stem {name extension : List Char}
    (hname : name = stem name ++ '.' :: extension) (hdot : '.' ∉ extension) :
    stem name ≠ [] ∧ name.reverse.dropWhile (· != '.') = '.' :: (stem name).reverse ∧
      name.reverse.takeWhile (· != '.') = extension.reverse := by
  have hreverse : name.reverse = extension.reverse ++ '.' :: (stem name).reverse := by
    rw [hname, List.reverse_append, List.reverse_cons, List.append_assoc, ← hname]
    rfl
  have hplain : ∀ c ∈ extension.reverse, (c != '.') = true := fun c hc =>
    bne_iff_ne.mpr fun heq => hdot (heq ▸ List.mem_reverse.mp hc)
  have hdrop : name.reverse.dropWhile (· != '.') = '.' :: (stem name).reverse := by
    rw [hreverse, List.dropWhile_append_of_pos hplain]
    rfl
  refine ⟨fun hnil => ?_, hdrop, ?_⟩
  · -- a name that begins with its only dot is its own stem
    rw [hnil] at hdrop
    have hstem : stem name = name := by
      rw [stem, hdrop]
      rfl
    rw [hstem] at hnil
    rw [hnil] at hdrop
    cases hdrop
  · rw [hreverse, List.takeWhile_append_of_pos hplain]
    simp

/-- The path with an extension that it has not leads to another name. -/
theorem ne_of_extension?_ne {path extension name other : String}
    (hother : extension? path ≠ some extension) (hplain : '/' ∉ extension.toList)
    (hdot : '.' ∉ extension.toList) (hlong : 1 < extension.length)
    (hname : (steps path).getLast? = some (.enter name))
    (hwith : (steps (withExtension path extension)).getLast? = some (.enter other)) :
    name ≠ other := by
  rintro rfl
  obtain ⟨hdots, hback⟩ := toList_of_enter hname
  rw [getLast?_steps_withExtension hdots hplain hlong] at hwith
  obtain rfl := Step.enter.inj (Option.some.inj hwith)
  rw [String.toList_ofList] at hback
  obtain ⟨hne, hdrop, htake⟩ := span_reverse_of_stem hback.symm hdot
  refine hother ?_
  rw [extension?, if_neg hdots, hdrop, htake, List.reverse_reverse, String.ofList_toList]
  split
  · next heq => cases heq
  · next heq => exact absurd (List.reverse_eq_nil_iff.mp (List.cons.inj heq).2) hne
  · rfl

/-- Two paths that do not lead to the same name. -/
def Apart (path other : String) : Prop :=
  ∀ name target, (steps path).getLast? = some (.enter name) →
    (steps other).getLast? = some (.enter target) → name ≠ target

/-- Being apart goes both ways. -/
theorem Apart.symm {path other : String} (h : Apart path other) : Apart other path :=
  fun name target hname htarget => (h target name htarget hname).symm

/-- A path and the one with an extension that it does not have lead to different names. -/
theorem apart_withExtension {path extension : String} (h : extension? path ≠ some extension)
    (hplain : '/' ∉ extension.toList) (hdot : '.' ∉ extension.toList)
    (hlong : 1 < extension.length) : Apart path (withExtension path extension) :=
  fun _ _ => ne_of_extension?_ne h hplain hdot hlong

/-! ## The directory that a path lies in -/

/-- What is left of a path without its end is the rest of it. -/
theorem settled_suffix (chars : List Char) : settled chars <:+ chars := by
  fun_induction settled chars with
  | case1 rest ih => exact ih.trans (List.suffix_cons _ _)
  | case2 rest ih => exact (ih.trans (List.suffix_cons _ _)).trans (List.suffix_cons _ _)
  | case3 => exact List.suffix_refl _

/-- What is left out of a path ends before a separator. -/
theorem settled_cases (chars : List Char) :
    settled chars = chars ∨ ∃ dropped, chars = dropped ++ '/' :: settled chars := by
  fun_induction settled chars with
  | case1 rest ih =>
    rcases ih with hsame | ⟨dropped, hdropped⟩
    · exact .inr ⟨[], by rw [hsame]; rfl⟩
    · exact .inr ⟨'/' :: dropped, congrArg ('/' :: ·) hdropped⟩
  | case2 rest ih =>
    rcases ih with hsame | ⟨dropped, hdropped⟩
    · exact .inr ⟨['.'], by rw [hsame]; rfl⟩
    · exact .inr ⟨'.' :: '/' :: dropped, congrArg ('.' :: '/' :: ·) hdropped⟩
  | case3 => exact .inl rfl

/-- A separator that a path ends in is left out. -/
theorem exists_of_separator (rest : List Char) :
    ∃ dropped, '/' :: rest = dropped ++ '/' :: settled ('/' :: rest) := by
  rcases settled_cases ('/' :: rest) with hsame | hdropped
  · have hhead := head_settled_ne ('/' :: rest)
    rw [hsame] at hhead
    exact absurd rfl hhead
  · exact hdropped

/-- A path that lies in a directory other than the root is the path of that directory, a separator
and more. -/
theorem parent?_cases {path up : String} (h : parent? path = some up) (hup : up ≠ "") :
    up = "/" ∨ ∃ rest, path.toList = up.toList ++ '/' :: rest ∧ ∃ c ∈ rest, c ≠ '/' := by
  -- on the path written backwards: its name comes first and the directory behind it
  obtain ⟨outer, houter⟩ := settled_suffix path.toList.reverse
  have hhead := head_settled_ne path.toList.reverse
  unfold parent? at h
  generalize settled path.toList.reverse = chars at h hhead houter
  cases chars with
  | nil => cases h
  | cons first more =>
    have hfirst : first ≠ '/' := fun heq => hhead (congrArg some heq)
    have hname : first ∈ (first :: more).takeWhile (· != '/') := by
      simp [hfirst]
    have hsplit := List.takeWhile_append_dropWhile (p := (· != '/')) (l := first :: more)
    have hbehind := List.head?_dropWhile_not (· != '/') (first :: more)
    generalize (first :: more).takeWhile (· != '/') = name at hname hsplit
    dsimp only at h
    generalize (first :: more).dropWhile (· != '/') = behind at h hsplit hbehind
    cases behind with
    | nil =>
      cases h
      exact absurd rfl hup
    | cons separator rest =>
      obtain rfl : separator = '/' := by simpa using hbehind
      obtain ⟨dropped, hdropped⟩ := exists_of_separator rest
      have hpath : path.toList = (settled ('/' :: rest)).reverse ++
          '/' :: (dropped.reverse ++ (name.reverse ++ outer.reverse)) := by
        have hreverse := congrArg List.reverse houter
        rw [← hsplit, hdropped, List.reverse_reverse] at hreverse
        simpa using hreverse.symm
      dsimp only at h
      generalize settled ('/' :: rest) = directory at h hpath
      cases directory with
      | nil =>
        cases h
        exact .inl rfl
      | cons c before =>
        cases h
        exact .inr ⟨_, by rw [String.toList_ofList]; exact hpath, first, by simp [hname], hfirst⟩

/-- A path that is not made of separators only has a step. -/
theorem filter_cut_ne_nil {chars : List Char} {c : Char} (hmem : c ∈ chars) (hc : c ≠ '/') :
    (cut chars).filter (· ≠ []) ≠ [] := by
  fun_induction cut chars with
  | case1 => cases hmem
  | case2 rest ih =>
    have hrest := ih ((List.mem_cons.mp hmem).resolve_left hc)
    simpa using hrest
  | case3 | case4 => simp

/-- The steps of a path begin with those of the directory that it lies in. -/
theorem steps_of_append {path up : String} {rest : List Char}
    (hpath : path.toList = up.toList ++ '/' :: rest) (hrest : ∃ c ∈ rest, c ≠ '/') :
    ∃ more, more ≠ [] ∧ steps path = steps up ++ more := by
  obtain ⟨c, hmem, hc⟩ := hrest
  refine ⟨((cut rest).filter (· ≠ [])).map Step.ofChars, ?_, ?_⟩
  · exact fun hnil => filter_cut_ne_nil hmem hc (List.map_eq_nil_iff.mp hnil)
  · rw [steps, hpath, cut_append, List.filter_append, List.map_append]
    rfl

end Reconciler.Path
