/-
# Reading records

Supplies what is read from an object whose keys are all different. The members are checked before a
record is put together, but whatever lets it be put together passes the checks; so it is enough to
know what the fields are read from. And whatever a record was read from, its fields come from what
stands right below it.
-/

import TokenRelay.Proofs.Json.Heredity
import TokenRelay.Proofs.Json.Reading

namespace TokenRelay

/-- The members of an object as the parts of its tree. -/
def Tree.members (entries : List (String × Tree)) : List (Option String × Tree) :=
  entries.map fun entry => (some entry.1, entry.2)

@[simp]
theorem Tree.members_nil : Tree.members [] = [] := rfl

@[simp]
theorem Tree.members_cons (entry : String × Tree) (entries : List (String × Tree)) :
    Tree.members (entry :: entries) = (some entry.1, entry.2) :: Tree.members entries := rfl

namespace Record

variable {α β : Type}

/-- Where a record can be put together the contents of its fields pass their checks. -/
def Checked (record : Record α) : Prop :=
  ∀ depth find value, record.build depth find = .ok value →
    ∀ field ∈ record.fields, ∀ tree, find field.name = some tree → field.check depth tree = .ok ()

theorem accepts_eq_ok {reader : Reader α} {depth : Nat} {tree : Tree} {value : α}
    (read : reader depth tree = .ok value) : accepts reader depth tree = .ok () := by
  rw [accepts, read]

theorem checked_pure (value : α) : (Record.pure value).Checked := by
  intro depth find value built field inside
  cases inside

theorem Checked.and {first : Record (α → β)} {second : Record α} (checked : first.Checked)
    (checked' : second.Checked) : (first.and second).Checked := by
  intro depth find value built field inside tree content
  simp only [Record.and] at built
  split at built
  · cases built
  · next make made =>
    split at built
    · cases built
    · next value made' =>
      rcases List.mem_append.1 inside with earlier | later
      · exact checked _ _ _ made field earlier tree content
      · exact checked' _ _ _ made' field later tree content

theorem checked_required (name : String) (reader : Reader α) :
    (required name reader).Checked := by
  intro depth find value built field inside tree content
  cases List.mem_singleton.1 inside
  simp only [required, content] at built
  exact accepts_eq_ok built

theorem checked_defaulted (name : String) (default : α) (reader : Reader α) :
    (defaulted name default reader).Checked := by
  intro depth find value built field inside tree content
  cases List.mem_singleton.1 inside
  simp only [defaulted, content] at built
  exact accepts_eq_ok built

theorem checked_optional (name : String) (reader : Reader α) :
    (optional name reader).Checked := by
  intro depth find value built field inside tree content
  cases List.mem_singleton.1 inside
  simp only [optional, content] at built
  exact accepts_eq_ok built

theorem content?_members (entries : List (String × Tree)) (name : String) :
    content? (Tree.members entries) name = entries.lookup name := by
  induction entries with
  | nil => rfl
  | cons entry rest ih =>
      rw [lookup_entry, ← ih, content?, content?, Tree.members_cons, List.lookup_cons]
      by_cases same : name = entry.1
      · simp [same]
      · have missed : (some name == some entry.1) = false := by simpa using same
        simp only [missed, if_neg same]

/-- Members with different keys pass if the known ones do. -/
theorem checkMembers_eq_ok {fields : List Field} {depth : Nat} {entries : List (String × Tree)}
    {seen : List String} (distinct : (entries.map Prod.fst).Nodup)
    (unseen : ∀ key ∈ entries.map Prod.fst, key ∉ seen)
    (passes : ∀ entry ∈ entries, ∀ field ∈ fields, field.name = entry.1 →
      field.check depth entry.2 = .ok ()) :
    checkMembers fields false depth seen (Tree.members entries) = .ok () := by
  induction entries generalizing seen with
  | nil => rfl
  | cons entry rest ih =>
      obtain ⟨key, tree⟩ := entry
      rw [List.map_cons, List.nodup_cons] at distinct
      have others := fun entry inside => passes entry (List.mem_cons_of_mem _ inside)
      have later {seen : List String} (unseen : ∀ key ∈ rest.map Prod.fst, key ∉ seen) :
          checkMembers fields false depth seen (Tree.members rest) = .ok () :=
        ih distinct.2 unseen others
      rw [Tree.members_cons, checkMembers]
      split
      · exact later fun other inside => unseen other (List.mem_cons_of_mem _ inside)
      · next field known =>
        have name : field.name = key := by simpa using List.find?_some known
        have fresh : ¬ seen.contains key = true := by
          simpa using unseen key List.mem_cons_self
        rw [if_neg fresh, passes (key, tree) List.mem_cons_self field
          (List.mem_of_find?_eq_some known) name]
        refine later fun other inside => ?_
        rw [List.mem_cons, not_or]
        refine ⟨?_, unseen other (List.mem_cons_of_mem _ inside)⟩
        rintro rfl
        exact distinct.1 inside

/-- From an object with different keys a record is read by looking for its fields. -/
theorem Checked.reader_eq {record : Record α} (checked : record.Checked)
    {entries : List (String × Tree)} (distinct : (entries.map Prod.fst).Nodup) {depth : Nat}
    {value : α} (built : record.build depth (entries.lookup ·) = .ok value) :
    record.reader false (depth + 1) (.object (Tree.members entries) .closed) = .ok value := by
  have passes : checkMembers record.fields false depth [] (Tree.members entries) = .ok () := by
    refine checkMembers_eq_ok distinct (fun _ _ => List.not_mem_nil) ?_
    rintro ⟨key, tree⟩ inside field known rfl
    exact checked _ _ _ built field known tree ((mem_iff_lookup distinct _ _).1 inside)
  have contents : content? (Tree.members entries) = (entries.lookup ·) :=
    funext (content?_members entries)
  simp only [reader, passes, Reader.ending, contents, built]

theorem build_and {first : Record (α → β)} {second : Record α} {depth : Nat}
    {find : String → Option Tree} {make : α → β} {value : α}
    (built : first.build depth find = .ok make) (built' : second.build depth find = .ok value) :
    (first.and second).build depth find = .ok (make value) := by
  simp only [Record.and, built, built']

theorem build_required {name : String} {reader : Reader α} {depth : Nat}
    {find : String → Option Tree} {tree : Tree} {value : α} (content : find name = some tree)
    (read : reader depth tree = .ok value) :
    (required name reader).build depth find = .ok value := by
  simp only [required, content, read]

/-- An absent field has its default. -/
theorem build_absent {name : String} {default : α} {reader : Reader α} {depth : Nat}
    {find : String → Option Tree} (absent : find name = none) :
    (defaulted name default reader).build depth find = .ok default := by
  simp only [defaulted, absent]

theorem build_present {name : String} {default : α} {reader : Reader α} {depth : Nat}
    {find : String → Option Tree} {tree : Tree} {value : α} (content : find name = some tree)
    (read : reader depth tree = .ok value) :
    (defaulted name default reader).build depth find = .ok value := by
  simp only [defaulted, content, read]

/-- What a record with a further field is put together from. -/
theorem exists_of_build_and {first : Record (α → β)} {second : Record α} {depth : Nat}
    {find : String → Option Tree} {value : β}
    (built : (first.and second).build depth find = .ok value) :
    ∃ make part, first.build depth find = .ok make ∧ second.build depth find = .ok part ∧
      value = make part := by
  simp only [Record.and] at built
  split at built
  · cases built
  · next make made =>
    split at built
    · cases built
    · next part made' =>
      cases built
      exact ⟨make, part, made, made', rfl⟩

theorem exists_of_build_required {name : String} {reader : Reader α} {depth : Nat}
    {find : String → Option Tree} {value : α}
    (built : (required name reader).build depth find = .ok value) :
    ∃ tree, find name = some tree ∧ reader depth tree = .ok value := by
  simp only [required] at built
  split at built
  · cases built
  · next tree content => exact ⟨tree, content, built⟩

theorem eq_or_exists_of_build_defaulted {name : String} {default : α} {reader : Reader α}
    {depth : Nat} {find : String → Option Tree} {value : α}
    (built : (defaulted name default reader).build depth find = .ok value) :
    value = default ∨ ∃ tree, find name = some tree ∧ reader depth tree = .ok value := by
  simp only [defaulted] at built
  split at built
  · cases built
    exact .inl rfl
  · next tree content => exact .inr ⟨tree, content, built⟩

/-- The content of a field is right below the record. -/
theorem mem_of_content? {members : List (Option String × Tree)} {name : String} {tree : Tree}
    (found : content? members name = some tree) : tree ∈ members.map Prod.snd := by
  induction members with
  | nil => cases found
  | cons member rest ih =>
      rw [content?, List.lookup_cons] at found
      split at found
      · cases found
        exact List.mem_cons_self
      · exact List.mem_cons_of_mem _ (ih found)

/-- A record that is read is put together from what is right below it. -/
theorem exists_build {record : Record α} {strict : Bool} {depth : Nat} {tree : Tree} {value : α}
    (read : record.reader strict depth tree = .ok value) :
    ∃ below find, depth = below + 1 ∧ record.build below find = .ok value ∧
      ∀ name part, find name = some part → part ∈ tree.parts := by
  unfold reader at read
  split at read
  · cases read
  · cases read
  · next depth members ending =>
    split at read
    · cases read
    · split at read
      · cases read
      · exact ⟨depth, content? members, rfl, read, fun name part found => mem_of_content? found⟩
  · next depth items ending =>
    split at read
    · cases read
    · refine ⟨depth, _, rfl, read, fun name part found => ?_⟩
      obtain ⟨pair, inside, rfl⟩ := List.mem_map.1 (mem_of_content? found)
      exact (List.of_mem_zip inside).2
  · cases read

end Record

namespace Reader

variable {α : Type}

theorem option_of_ne {reader : Reader α} {depth : Nat} {tree : Tree} (there : tree ≠ .null) :
    option reader depth tree = (reader depth tree).map some := by
  cases tree with
  | null => exact absurd rfl there
  | _ => rfl

/-- What passes a further test was read before. -/
theorem exists_of_refine {β : Type} {reader : Reader α} {test : α → Option β} {depth : Nat}
    {tree : Tree} {value : β} (read : refine reader test depth tree = .ok value) :
    ∃ before, reader depth tree = .ok before ∧ test before = some value := by
  unfold refine at read
  split at read
  · cases read
  · next before found =>
    split at read
    · next passed =>
      cases read
      exact ⟨before, found, passed⟩
    · cases read

theorem refine_eq_ok {β : Type} {reader : Reader α} {test : α → Option β} {depth : Nat}
    {tree : Tree} {before : α} {value : β} (found : reader depth tree = .ok before)
    (passed : test before = some value) : refine reader test depth tree = .ok value := by
  simp only [refine, found, passed]

/-- Items that are read one by one. -/
theorem itemsFrom_map {reader : Reader α} {depth : Nat} {write : α → Tree} {values : List α}
    (reads : ∀ value ∈ values, reader depth (write value) = .ok value) (earlier : List α) :
    itemsFrom reader depth earlier (values.map write) = .ok (earlier.reverse ++ values) := by
  induction values generalizing earlier with
  | nil => simp [itemsFrom]
  | cons value rest ih =>
      have others := ih fun other inside => reads other (List.mem_cons_of_mem _ inside)
      simp [itemsFrom, reads value List.mem_cons_self, others]

theorem list_map {reader : Reader α} {depth : Nat} {write : α → Tree} {values : List α}
    (reads : ∀ value ∈ values, reader depth (write value) = .ok value) :
    list reader (depth + 1) (.array (values.map write) .closed) = .ok values := by
  simp [list, itemsFrom_map reads, ending]

/-- Members that are read one by one. -/
theorem membersFrom_map {reader : Reader α} {depth : Nat} {write : α → Tree}
    {entries : List (String × α)}
    (reads : ∀ entry ∈ entries, reader depth (write entry.2) = .ok entry.2)
    (earlier : List (String × α)) :
    membersFrom reader depth earlier
        (Tree.members (entries.map fun entry => (entry.1, write entry.2))) =
      .ok (earlier.reverse ++ entries) := by
  induction entries generalizing earlier with
  | nil => simp [membersFrom]
  | cons entry rest ih =>
      have others := ih fun other inside => reads other (List.mem_cons_of_mem _ inside)
      simp [membersFrom, reads entry List.mem_cons_self, others]

/-- A map that is written by increasing key is read as it was. -/
theorem dictionary_map {reader : Reader α} {depth : Nat} {write : α → Tree} {map : KeyMap α}
    (reads : ∀ entry ∈ map.entries, reader depth (write entry.2) = .ok entry.2) :
    dictionary reader (depth + 1)
        (.object (Tree.members (map.entries.map fun entry => (entry.1, write entry.2))) .closed) =
      .ok map := by
  simp [dictionary, membersFrom_map reads, ending, KeyMap.ofList_entries]

end Reader

theorem Json.itemTrees_eq_map (items : List Json) :
    Json.itemTrees items = items.map Json.tree := by
  induction items with
  | nil => rfl
  | cons item rest ih => rw [Json.itemTrees, ih, List.map_cons]

theorem Json.memberTrees_eq_map (members : List (String × Json)) :
    Json.memberTrees members =
      Tree.members (members.map fun member => (member.1, member.2.tree)) := by
  induction members with
  | nil => rfl
  | cons member rest ih =>
      rw [Json.memberTrees, ih]
      rfl

theorem Json.memberTreesWith_eq_map (change : Number → Option Number)
    (members : List (String × Json)) :
    Json.memberTreesWith change members =
      Tree.members (members.map fun member => (member.1, member.2.treeWith change)) := by
  induction members with
  | nil => rfl
  | cons member rest ih =>
      rw [Json.memberTreesWith, ih]
      rfl

/-- What is found in members whose contents have been changed. -/
theorem lookup_map {α β : Type} (entries : List (String × α)) (change : α → β) (key : String) :
    (entries.map fun entry => (entry.1, change entry.2)).lookup key =
      (entries.lookup key).map change := by
  induction entries with
  | nil => rfl
  | cons entry rest ih =>
      rw [List.map_cons, lookup_entry, lookup_entry, ih]
      split <;> rfl

theorem Json.resettleItems_eq_map (items : List Json) :
    Json.resettleItems items = items.map Json.resettle := by
  induction items with
  | nil => rfl
  | cons item rest ih => rw [Json.resettleItems, ih, List.map_cons]

theorem Json.resettleMembers_eq_map (members : List (String × Json)) :
    Json.resettleMembers members = members.map fun member => (member.1, member.2.resettle) := by
  induction members with
  | nil => rfl
  | cons member rest ih => rw [Json.resettleMembers, ih, List.map_cons]

/-- A settled object has what it had under its keys, with the objects inside settled. -/
theorem Json.lookup_resettle {members : List (String × Json)}
    (distinct : (members.map Prod.fst).Nodup) (name : String) :
    (KeyMap.ofList (Json.resettleMembers members)).entries.lookup name =
      (members.lookup name).map Json.resettle := by
  have distinct' : ((Json.resettleMembers members).map Prod.fst).Nodup := by
    rw [Json.resettleMembers_eq_map, List.map_map]
    exact distinct
  rw [← lookup_map, ← Json.resettleMembers_eq_map]
  exact KeyMap.find?_ofList distinct' name

/-- A way of turning values into trees that keeps everything but the order of keys. -/
structure Json.Rendering (render : Json → Tree) : Prop where
  settled : ∀ value, value.Settled → render value = value.tree
  array : ∀ items, render (.array items) = .array (items.map render) .closed
  object : ∀ members : List (String × Json), (members.map Prod.fst).Nodup →
    ∃ entries, render (.object members) = .object (Tree.members entries) .closed ∧
      (entries.map Prod.fst).Nodup ∧
      ∀ name, entries.lookup name = (members.lookup name).map render

theorem Json.rendering_tree : Json.Rendering Json.tree where
  settled _ _ := rfl
  array items := by rw [tree, itemTrees_eq_map]
  object members distinct := by
    refine ⟨members.map fun member => (member.1, member.2.tree), ?_, ?_, lookup_map members tree⟩
    · rw [tree, memberTrees_eq_map]
    · rw [List.map_map]
      exact distinct

/-- What was read before and is read again comes with its keys sorted. -/
theorem Json.rendering_resettle : Json.Rendering fun value => value.resettle.tree where
  settled value settled := by rw [value.resettle_of_settled settled]
  array items := by
    rw [resettle, tree, itemTrees_eq_map, resettleItems_eq_map, List.map_map]
    rfl
  object members distinct := by
    let settled := KeyMap.ofList (Json.resettleMembers members)
    refine ⟨settled.entries.map fun member => (member.1, member.2.tree), ?_, ?_, fun name => ?_⟩
    · rw [resettle, settle, tree, memberTrees_eq_map]
    · rw [List.map_map]
      exact settled.nodup_keys
    · rw [lookup_map, lookup_resettle distinct, Option.map_map]
      rfl

/-- The contents of an object under their keys, as trees. -/
def Json.content (render : Json → Tree) (members : List (String × Json)) (name : String) :
    Option Tree :=
  (members.lookup name).map render

/-- A record is read from an object by looking for its fields among the members. -/
theorem Json.Rendering.read {render : Json → Tree} (rendering : Json.Rendering render) {α : Type}
    {record : Record α} (checked : record.Checked) {members : List (String × Json)}
    (distinct : (members.map Prod.fst).Nodup) {depth : Nat} {value : α}
    (built : record.build depth (Json.content render members) = .ok value) :
    record.reader false (depth + 1) (render (.object members)) = .ok value := by
  obtain ⟨entries, tree, keys, contents⟩ := rendering.object members distinct
  have same : (entries.lookup ·) = Json.content render members := funext contents
  rw [tree]
  exact checked.reader_eq keys (same ▸ built)

/-- A list of values is read from what is made of them one by one. -/
theorem Json.Rendering.read_list {render : Json → Tree} (rendering : Json.Rendering render)
    {α : Type} {reader : Reader α} {depth : Nat} {write : α → Json} {values : List α}
    (reads : ∀ value ∈ values, reader depth (render (write value)) = .ok value) :
    Reader.list reader (depth + 1) (render (.array (values.map write))) = .ok values := by
  rw [rendering.array, List.map_map]
  exact Reader.list_map reads

end TokenRelay
