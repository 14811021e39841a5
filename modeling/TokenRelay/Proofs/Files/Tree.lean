/-
# What file operations leave as it is

Supplies where paths lead and what making directories and writing a file leave as it is. To make
directories adds directories, also if it fails half-way, and touches no file; to write a file
touches no directory and no other file, also if there is not enough room for it. So whatever
directory a path led to before, it leads to afterwards. A name behind a path lies in the directory
that the path leads to.
-/

import TokenRelay.Files.Tree
import TokenRelay.Proofs.Files.Path
import TokenRelay.Proofs.KeyMap

namespace TokenRelay

/-- A path that can be looked up: it holds no NUL, it is not empty, and it is not too long. -/
structure Path.IsSound (path : String) : Prop where
  plain : '\x00' ∉ path.toList
  filled : path ≠ ""
  short : path.utf8ByteSize < 4096

/-- A path with a name behind it is no shorter than the path. -/
theorem Path.IsSound.of_join {path name : String} (own : IsName name) (filled : path ≠ "")
    (sound : IsSound (join path name)) : IsSound path := by
  obtain ⟨added, whole⟩ := own.exists_join_eq path
  refine ⟨fun inside => sound.plain ?_, filled, ?_⟩
  · rw [whole, String.toList_append]
    exact List.mem_append_left _ inside
  · have short := sound.short
    rw [whole, String.utf8ByteSize_append] at short
    omega

namespace FileTree

/-- All directories of a tree are there in another one, with the same working directory and the same
quota. -/
structure Extends (before after : FileTree) : Prop where
  isDirectory : ∀ {place}, before.isDirectory place = true → after.isDirectory place = true
  workingDirectory_eq : after.workingDirectory = before.workingDirectory
  quota_eq : after.quota = before.quota

theorem Extends.refl (tree : FileTree) : tree.Extends tree := ⟨id, rfl, rfl⟩

theorem Extends.trans {first second third : FileTree} (one : first.Extends second)
    (other : second.Extends third) : first.Extends third where
  isDirectory there := other.isDirectory (one.isDirectory there)
  workingDirectory_eq := other.workingDirectory_eq.trans one.workingDirectory_eq
  quota_eq := other.quota_eq.trans one.quota_eq

/-- There is room for a number of bytes beside the files. -/
def HasRoomFor (tree : FileTree) (bytes : Nat) : Prop :=
  ∀ quota, tree.quota = some quota → tree.size + bytes ≤ quota

/-- Where there is room for two contents there is room for one, and for the other after that. -/
theorem HasRoomFor.mono {tree : FileTree} {bytes more : Nat} (room : tree.HasRoomFor more)
    (le : bytes ≤ more) : tree.HasRoomFor bytes := fun quota bounded =>
  Nat.le_trans (Nat.add_le_add_left le tree.size) (room quota bounded)

theorem Extends.start_eq {before after : FileTree} (grown : before.Extends after)
    (path : String) : after.start path = before.start path := by
  rw [start, start, grown.workingDirectory_eq]

section Walk

variable {tree : FileTree}

/-- A walk along names goes along the first of them, and from there along the others. -/
theorem walk_append (place first second : List String) :
    tree.walk place (first ++ second) =
      (tree.walk place first).bind fun next => tree.walk next second := by
  induction first generalizing place with
  | nil => rfl
  | cons name first ih =>
      rw [List.cons_append, walk, walk]
      dsimp only
      split
      · exact ih _
      · split
        · rfl
        · split
          · exact ih _
          · split <;> rfl

/-- One step of a walk goes down into a directory, unless it leads up. -/
theorem walk_name {place found : List String} {name : String} (down : name ≠ "..") :
    tree.walk place [name] = .ok found ↔
      fitsName name = true ∧ tree.isDirectory (place ++ [name]) = true ∧
        found = place ++ [name] := by
  rw [walk, if_neg down]
  by_cases fits : fitsName name = true
  · by_cases there : tree.isDirectory (place ++ [name]) = true
    · simp [fits, there, walk, eq_comm]
    · simp only [fits, Bool.not_true, Bool.false_eq_true, if_false, there]
      split <;> simp
  · simp [fits]

/-- The last step of a walk. -/
theorem walk_concat {place names found : List String} {name : String} (down : name ≠ "..") :
    tree.walk place (names ++ [name]) = .ok found ↔
      ∃ above, tree.walk place names = .ok above ∧ fitsName name = true ∧
        tree.isDirectory (above ++ [name]) = true ∧ found = above ++ [name] := by
  rw [walk_append]
  cases reached : tree.walk place names with
  | error error => simp [Except.bind]
  | ok above => simp [Except.bind, walk_name down]

/-- Where there are more directories a walk still gets where it got. -/
theorem Extends.walk {before after : FileTree} (grown : before.Extends after)
    {place names found : List String} (reached : before.walk place names = .ok found) :
    after.walk place names = .ok found := by
  induction names generalizing place with
  | nil => exact reached
  | cons name names ih =>
      rw [FileTree.walk] at reached ⊢
      dsimp only at reached ⊢
      split at reached
      · next up => rw [if_pos up, ih reached]
      · next down =>
        rw [if_neg down]
        split at reached
        · cases reached
        · next fits =>
          rw [if_neg fits]
          split at reached
          · next there => rw [if_pos (grown.isDirectory there), ih reached]
          · split at reached <;> cases reached

theorem isSound_of_locate {path : String} {found : List String × Option String}
    (located : tree.locate path = .ok found) : Path.IsSound path := by
  unfold locate at located
  split at located
  · cases located
  · next plain =>
    split at located
    · cases located
    · next filled =>
      split at located
      · cases located
      · next short =>
        exact ⟨by simpa using plain, by simpa using filled, Nat.lt_of_not_le short⟩

/-- A sound path is followed along its names, all but the last if that is a name of its own. -/
theorem locate_of_isSound {path : String} (sound : Path.IsSound path) :
    tree.locate path =
      match (Path.names path).getLast? with
      | none => .ok (tree.start path, none)
      | some last =>
        if last = ".." then
          (tree.walk (tree.start path) (Path.names path)).map fun place => (place, none)
        else
          match tree.walk (tree.start path) (Path.names path).dropLast with
          | .error error => .error error
          | .ok place => if fitsName last then .ok (place, some last) else .error .nameTooLong := by
  have plain : ¬ path.toList.contains '\x00' = true := by simpa using sound.plain
  have filled : ¬ path.isEmpty = true := by simpa using sound.filled
  have short : ¬ 4096 ≤ path.utf8ByteSize := Nat.not_le.2 sound.short
  exact (if_neg plain).trans ((if_neg filled).trans (if_neg short))

/-- The directory that a path leads to is where a walk along its names ends. -/
theorem directoryAt?_eq_some_iff {path : String} {place : List String} :
    tree.directoryAt? path = some place ↔
      Path.IsSound path ∧ tree.walk (tree.start path) (Path.names path) = .ok place := by
  by_cases sound : Path.IsSound path
  · rw [directoryAt?, locate_of_isSound sound]
    rcases List.eq_nil_or_concat (Path.names path) with none | ⟨above, last, listed⟩
    · simp [none, walk, sound]
    · rw [List.concat_eq_append] at listed
      rw [listed, List.getLast?_concat, List.dropLast_concat]
      by_cases up : last = ".."
      · subst last
        cases tree.walk (tree.start path) (above ++ [".."]) <;> simp [Except.map, sound]
      · dsimp only
        rw [if_neg up, walk_concat up]
        cases tree.walk (tree.start path) above with
        | error error => simp
        | ok found =>
            by_cases fits : fitsName last = true
            · by_cases there : tree.isDirectory (found ++ [last]) = true
              · simpa [fits, there, sound] using eq_comm
              · simp [fits, there]
            · simp [fits]
  · constructor
    · intro there
      unfold directoryAt? at there
      split at there
      · cases there
      · next located => exact absurd (isSound_of_locate located) sound
      · next located => exact absurd (isSound_of_locate located) sound
    · exact fun reached => absurd reached.1 sound

/-- Where there are more directories a path still leads to the directory that it led to. -/
theorem Extends.directoryAt? {before after : FileTree} (grown : before.Extends after)
    {path : String} {place : List String} (there : before.directoryAt? path = some place) :
    after.directoryAt? path = some place := by
  obtain ⟨sound, reached⟩ := directoryAt?_eq_some_iff.1 there
  refine directoryAt?_eq_some_iff.2 ⟨sound, ?_⟩
  rw [grown.start_eq]
  exact grown.walk reached

/-- The directory in which a name behind a path lies. Behind the empty path there is nothing but the
name, so it lies in the working directory. -/
def baseAt? (tree : FileTree) (path : String) : Option (List String) :=
  if path = "" then some tree.workingDirectory else tree.directoryAt? path

theorem Extends.baseAt? {before after : FileTree} (grown : before.Extends after)
    {path : String} {place : List String} (there : before.baseAt? path = some place) :
    after.baseAt? path = some place := by
  unfold FileTree.baseAt? at there ⊢
  split
  · next empty => rwa [if_pos empty, ← grown.workingDirectory_eq] at there
  · next filled =>
    rw [if_neg filled] at there
    exact grown.directoryAt? there

/-- A name behind a path is looked up in the directory that the path leads to. -/
theorem locate_join {path name : String} (own : Path.IsName name)
    {found : List String × Option String}
    (located : tree.locate (Path.join path name) = .ok found) :
    ∃ place, tree.baseAt? path = some place ∧ found = (place, some name) := by
  have sound := isSound_of_locate located
  rw [locate_of_isSound sound, own.names_join, List.getLast?_concat,
    List.dropLast_concat] at located
  dsimp only at located
  rw [if_neg own.notAbove] at located
  split at located
  · cases located
  · next place reached =>
    split at located
    · obtain rfl := Except.ok.inj located
      refine ⟨place, ?_, rfl⟩
      rw [start, own.isAbsolute_join] at reached
      unfold baseAt?
      split
      · next empty =>
        -- The name alone is a relative path, and there is nothing to walk along before it.
        subst path
        exact congrArg some (Except.ok.inj reached)
      · next filled => exact directoryAt?_eq_some_iff.2 ⟨sound.of_join own filled, reached⟩
    · cases located

/-- A directory with a name behind a path lies in the directory that the path leads to. -/
theorem directoryAt?_join {path name : String} (own : Path.IsName name) {place : List String}
    (there : tree.directoryAt? (Path.join path name) = some place) :
    ∃ above, tree.baseAt? path = some above ∧ place = above ++ [name] := by
  unfold directoryAt? at there
  split at there
  · cases there
  · next located =>
    obtain ⟨_, _, same⟩ := locate_join own located
    cases same
  · next above last located =>
    obtain ⟨_, base, same⟩ := locate_join own located
    cases same
    split at there
    · exact ⟨above, base, (Option.some.inj there).symm⟩
    · cases there

end Walk

section Change

variable {tree after : FileTree}

/-- Nothing has happened but that directories were made. -/
structure MakesDirectories (before after : FileTree) : Prop extends Extends before after where
  files_eq : after.files = before.files

theorem MakesDirectories.refl (tree : FileTree) : tree.MakesDirectories tree := ⟨.refl tree, rfl⟩

theorem MakesDirectories.trans {first second third : FileTree}
    (one : first.MakesDirectories second) (other : second.MakesDirectories third) :
    first.MakesDirectories third :=
  ⟨one.toExtends.trans other.toExtends, other.files_eq.trans one.files_eq⟩

theorem makeDirectory_makesDirectories {path : String}
    (made : tree.makeDirectory path = .ok after) : tree.MakesDirectories after := by
  unfold makeDirectory at made
  split at made
  · cases made
  · cases made
  · dsimp only at made
    split at made
    · cases made
    · obtain rfl := Except.ok.inj made
      refine ⟨⟨fun there => ?_, rfl, rfl⟩, rfl⟩
      simp only [isDirectory, Bool.or_eq_true, List.contains_iff_mem] at there ⊢
      exact there.imp_right (List.mem_append_left _)

theorem ensureDirectory_makesDirectories {path : String}
    (made : tree.ensureDirectory path = .ok after) : tree.MakesDirectories after := by
  unfold ensureDirectory at made
  split at made
  · next step =>
    obtain rfl := Except.ok.inj made
    exact makeDirectory_makesDirectories step
  · split at made
    · obtain rfl := Except.ok.inj made
      exact .refl tree
    · cases made

/-- The induction is on the number of times that one may still go up. -/
theorem makeDirectoriesFrom_makesDirectories (path : String) (fuel : Nat) :
    tree.MakesDirectories (tree.makeDirectoriesFrom path fuel).1 := by
  induction fuel generalizing path with
  | zero => exact .refl tree
  | succ fuel ih =>
      unfold makeDirectoriesFrom
      split
      · exact .refl tree
      · split
        · next made => exact makeDirectory_makesDirectories made
        · split
          · exact .refl tree
          · next above _ =>
            have made := ih above
            split
            -- What was made above stays there if the directory itself cannot be made.
            · next failed => rwa [failed] at made
            · next done =>
              rw [done] at made
              split
              · next last => exact made.trans (ensureDirectory_makesDirectories last)
              · exact made
        · split <;> exact .refl tree

/-- To make a directory and those above it makes directories only, whether it succeeds or fails on
its way. -/
theorem makeDirectories_makesDirectories (tree : FileTree) (path : String) :
    tree.MakesDirectories (tree.makeDirectories path).1 :=
  makeDirectoriesFrom_makesDirectories path _

theorem MakesDirectories.content?_eq {before after : FileTree}
    (made : before.MakesDirectories after) (place : List String) :
    after.content? place = before.content? place := by
  rw [content?, content?, made.files_eq]

theorem MakesDirectories.size_eq {before after : FileTree}
    (made : before.MakesDirectories after) : after.size = before.size := by
  rw [size, size, made.files_eq]

/-- What is in a file after another has been written, or the same. -/
theorem content?_replaced (tree : FileTree) (target : List String) (content : List UInt8)
    (place : List String) :
    ({ tree.without target with files := (tree.without target).files ++ [(target, content)] } :
      FileTree).content? place =
      if place = target then some content else tree.content? place := by
  rw [content?, without, List.lookup_append, lookup_filter_ne, lookup_entry]
  by_cases same : place = target
  · simp [same]
  · simp [same, content?]

theorem size_without_le (tree : FileTree) (place : List String) :
    (tree.without place).size ≤ tree.size := by
  simp only [size, without]
  induction tree.files with
  | nil => exact Nat.le_refl _
  | cons file rest ih =>
      rw [List.filter_cons]
      split
      · simpa using ih
      · exact Nat.le_trans ih (by simp)

theorem size_append (tree : FileTree) (place : List String) (content : List UInt8) :
    ({ tree with files := tree.files ++ [(place, content)] } : FileTree).size =
      tree.size + content.length := by
  simp only [size, List.foldr_append]
  induction tree.files with
  | nil => simp
  | cons file rest ih => rw [List.foldr_cons, ih, List.foldr_cons, Nat.add_assoc]

/-- What fits is a beginning of the content. If it is not all of it, there is not enough room. -/
theorem fitting_isPrefix (tree : FileTree) (content : List UInt8) :
    tree.fitting content <+: content := by
  unfold fitting
  split
  · exact List.prefix_rfl
  · exact List.take_prefix _ _

theorem not_hasRoomFor_of_fitting {content : List UInt8}
    (shorter : (tree.fitting content).length < content.length) :
    ¬ tree.HasRoomFor content.length := by
  unfold fitting at shorter
  split at shorter
  · exact absurd shorter (Nat.lt_irrefl _)
  · next quota bounded =>
    intro room
    have enough := room quota bounded
    rw [List.length_take] at shorter
    omega

/-- What it comes to when a file is written behind a path. It is refused and nothing changes, or the
file is put into the directory that the path leads to, in place of a file of that name: as a whole,
or, if there is not enough room, with the beginning of its content. No other file changes. -/
inductive Writes (tree : FileTree) (path name : String) (content : List UInt8) (after : FileTree) :
    Option FileError → Prop
  | refused (error : FileError) (same : after = tree) :
      Writes tree path name content after (some error)
  | whole (place : List String) (base : tree.baseAt? path = some place)
      (changed : ∀ other, after.content? other =
        if other = place ++ [name] then some content else tree.content? other) :
      Writes tree path name content after none
  | cut (place : List String) (base : tree.baseAt? path = some place) (beginning : List UInt8)
      (part : beginning <+: content) (shorter : beginning.length < content.length)
      (lacks : ¬ tree.HasRoomFor content.length)
      (changed : ∀ other, after.content? other =
        if other = place ++ [name] then some beginning else tree.content? other) :
      Writes tree path name content after (some .full)

theorem writes_of_write {path name : String} (own : Path.IsName name) {content : List UInt8}
    {outcome : Option FileError}
    (result : tree.write (Path.join path name) content = (after, outcome)) :
    tree.Extends after ∧ after.size ≤ tree.size + content.length ∧
      Writes tree path name content after outcome := by
  unfold write at result
  split at result
  · cases result
    exact ⟨.refl tree, Nat.le_add_right _ _, .refused _ rfl⟩
  · cases result
    exact ⟨.refl tree, Nat.le_add_right _ _, .refused _ rfl⟩
  · next place last located =>
    obtain ⟨_, base, same⟩ := locate_join own located
    cases same
    dsimp only at result
    split at result
    · cases result
      exact ⟨.refl tree, Nat.le_add_right _ _, .refused _ rfl⟩
    · obtain ⟨rfl, rfl⟩ := Prod.mk.inj result
      have part := (tree.without (place ++ [name])).fitting_isPrefix content
      have smaller := tree.size_without_le (place ++ [name])
      refine ⟨⟨id, rfl, rfl⟩, ?_, ?_⟩
      · rw [size_append]
        exact Nat.add_le_add smaller part.length_le
      · split
        · next shorter =>
          -- There is no room for all of it even without the file that it takes the place of.
          refine .cut place base _ part shorter (fun room => ?_) (tree.content?_replaced _ _)
          refine not_hasRoomFor_of_fitting shorter fun quota bounded => ?_
          exact Nat.le_trans (Nat.add_le_add_right smaller _) (room quota bounded)
        · next enough =>
          rw [part.eq_of_length_le (Nat.le_of_not_lt enough)]
          exact .whole place base (tree.content?_replaced _ _)

/-- A file that there is not enough room for is there all the same, with what there is room for. -/
example :
    let result := ({ files := [(["a"], [1])], quota := some 3 } : FileTree).write "b" [2, 3, 4]
    result.2 = some .full ∧ result.1.files = [(["a"], [1]), (["b"], [2, 3])] := by decide +kernel

end Change

end FileTree

end TokenRelay
