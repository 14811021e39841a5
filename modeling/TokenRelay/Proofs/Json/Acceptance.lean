/-
# Which objects a record accepts

Supplies that an object passes the checks of a record exactly if all its keys are texts, no key of a
field comes twice, and the content of every field passes its own check. Members with other keys do
not matter, whatever they hold. What a field is read from is then the content of its key.
-/

import TokenRelay.Proofs.Json.Record

namespace TokenRelay.Record

/-- How often a key comes among the members of an object. -/
def times (name : String) (members : List (Option String × Tree)) : Nat :=
  members.countP fun member => member.1 == some name

theorem times_cons (name : String) (key : Option String) (tree : Tree)
    (rest : List (Option String × Tree)) :
    times name ((key, tree) :: rest) = times name rest + if key = some name then 1 else 0 := by
  simp [times, List.countP_cons]

theorem times_cons_of_ne {name key : String} (other : name ≠ key) (tree : Tree)
    (rest : List (Option String × Tree)) :
    times name ((some key, tree) :: rest) = times name rest := by
  rw [times_cons, if_neg fun same => other (Option.some.inj same).symm]
  rfl

/-- The members of an object pass the checks of fields. -/
structure Accepts (fields : List Field) (depth : Nat) (members : List (Option String × Tree)) :
    Prop where
  named : ∀ member ∈ members, member.1 ≠ none
  once : ∀ field ∈ fields, times field.name members ≤ 1
  checked : ∀ field ∈ fields, ∀ tree, (some field.name, tree) ∈ members →
    field.check depth tree = .ok ()

variable {α : Type} {fields : List Field} {depth : Nat} {members : List (Option String × Tree)}

/-- The field of a key is found under its name, which no other field has. -/
theorem find?_field_eq_some (distinct : (fields.map Field.name).Nodup) {field : Field}
    (inside : field ∈ fields) : fields.find? (·.name == field.name) = some field := by
  induction fields with
  | nil => cases inside
  | cons first rest ih =>
      obtain ⟨fresh, distinct⟩ := List.nodup_cons.1 distinct
      rcases List.mem_cons.1 inside with rfl | later
      · simp
      · have other : first.name ≠ field.name := fun same =>
          fresh (same ▸ List.mem_map_of_mem later)
        rw [List.find?_cons_of_neg (by simpa using other)]
        exact ih distinct later

theorem field_eq_of_name_eq (distinct : (fields.map Field.name).Nodup) {first second : Field}
    (inside : first ∈ fields) (inside' : second ∈ fields) (same : first.name = second.name) :
    first = second := by
  have found := find?_field_eq_some distinct inside
  rw [same, find?_field_eq_some distinct inside'] at found
  exact (Option.some.inj found).symm

variable {tree : Tree} {rest : List (Option String × Tree)}

/-- A member whose key no field has does not matter. -/
theorem accepts_cons_of_unknown {key : String} (unknown : ∀ field ∈ fields, field.name ≠ key) :
    Accepts fields depth ((some key, tree) :: rest) ↔ Accepts fields depth rest := by
  have times_eq : ∀ field ∈ fields, times field.name ((some key, tree) :: rest) =
      times field.name rest := fun field inside => times_cons_of_ne (unknown field inside) tree rest
  constructor
  · rintro ⟨named, once, checked⟩
    exact {
      named := (List.forall_mem_cons.1 named).2
      once := fun field inside => times_eq field inside ▸ once field inside
      checked := fun field inside content there =>
        checked field inside content (List.mem_cons_of_mem _ there) }
  · rintro ⟨named, once, checked⟩
    refine ⟨List.forall_mem_cons.2 ⟨nofun, named⟩, fun field inside => ?_, ?_⟩
    · rw [times_eq field inside]
      exact once field inside
    · intro field inside content there
      rcases List.mem_cons.1 there with same | later
      · exact absurd (Option.some.inj (Prod.mk.inj same).1) (unknown field inside)
      · exact checked field inside content later

/-- A member whose key a field has is the only one, and passes the check of that field. -/
theorem accepts_cons_of_known (distinct : (fields.map Field.name).Nodup) {field : Field}
    (known : field ∈ fields) :
    Accepts fields depth ((some field.name, tree) :: rest) ↔
      field.check depth tree = .ok () ∧ times field.name rest = 0 ∧ Accepts fields depth rest := by
  constructor
  · rintro ⟨named, once, checked⟩
    refine ⟨checked field known tree List.mem_cons_self, ?_, ?_⟩
    · have single := once field known
      rw [times_cons, if_pos rfl] at single
      omega
    · exact {
        named := (List.forall_mem_cons.1 named).2
        once := fun other inside => by
          have single := once other inside
          rw [times_cons] at single
          exact Nat.le_trans (Nat.le_add_right _ _) single
        checked := fun other inside content there =>
          checked other inside content (List.mem_cons_of_mem _ there) }
  · rintro ⟨passes, alone, named, once, checked⟩
    refine ⟨List.forall_mem_cons.2 ⟨nofun, named⟩, fun other inside => ?_, ?_⟩
    · rw [times_cons]
      split
      · next same =>
        have alone : times other.name rest = 0 := Option.some.inj same ▸ alone
        omega
      · exact once other inside
    · intro other inside content there
      rcases List.mem_cons.1 there with same | later
      · obtain ⟨name, rfl⟩ := Prod.mk.inj same
        cases field_eq_of_name_eq distinct inside known (Option.some.inj name)
        exact passes
      · exact checked other inside content later

/-- The checks go from left to right, and of the members before nothing counts but which fields
have been among them. The induction is on the members that are left. -/
theorem checkMembers_eq_ok_iff (distinct : (fields.map Field.name).Nodup) {seen : List String} :
    checkMembers fields false depth seen members = .ok () ↔
      Accepts fields depth members ∧
        ∀ field ∈ fields, field.name ∈ seen → times field.name members = 0 := by
  induction members generalizing seen with
  | nil =>
      have none : Accepts fields depth [] :=
        ⟨List.forall_mem_nil _, fun _ _ => Nat.zero_le _,
          fun _ _ _ inside => absurd inside List.not_mem_nil⟩
      exact iff_of_true rfl ⟨none, fun _ _ _ => rfl⟩
  | cons member rest ih =>
      obtain ⟨key, tree⟩ := member
      cases key with
      | none =>
          refine iff_of_false (fun passed => by cases passed) ?_
          rintro ⟨⟨named, -, -⟩, -⟩
          exact named _ List.mem_cons_self rfl
      | some key =>
          rw [checkMembers]
          cases found : fields.find? (·.name == key) with
          | none =>
              have unknown : ∀ field ∈ fields, field.name ≠ key := by
                simpa using List.find?_eq_none.1 found
              simp only [Bool.false_eq_true, if_false]
              rw [ih, accepts_cons_of_unknown unknown]
              refine and_congr_right fun _ => forall₂_congr fun field inside => ?_
              rw [times_cons_of_ne (unknown field inside)]
          | some field =>
              obtain rfl : field.name = key := by simpa using List.find?_some found
              have known := List.mem_of_find?_eq_some found
              rw [accepts_cons_of_known distinct known]
              by_cases before : field.name ∈ seen
              · simp only [List.contains_iff_mem, before, if_true]
                refine iff_of_false (fun passed => by cases passed) ?_
                rintro ⟨-, alone⟩
                have none := alone field known before
                rw [times_cons, if_pos rfl] at none
                omega
              · simp only [List.contains_iff_mem, before, if_false]
                cases field.check depth tree with
                | error fault =>
                    refine iff_of_false (fun passed => by cases passed) ?_
                    rintro ⟨⟨failed, -, -⟩, -⟩
                    cases failed
                | ok _ =>
                    have other {field' : Field} (seen' : field'.name ∈ seen) :
                        field'.name ≠ field.name := fun same => before (same ▸ seen')
                    simp only [ih]
                    constructor
                    · rintro ⟨accepted, alone⟩
                      refine ⟨⟨trivial, alone field known List.mem_cons_self, accepted⟩, ?_⟩
                      intro field' inside seen'
                      rw [times_cons_of_ne (other seen')]
                      exact alone field' inside (List.mem_cons_of_mem _ seen')
                    · rintro ⟨⟨-, single, accepted⟩, alone⟩
                      refine ⟨accepted, fun field' inside seen' => ?_⟩
                      rcases List.mem_cons.1 seen' with same | earlier
                      · rw [same]
                        exact single
                      · rw [← alone field' inside earlier, times_cons_of_ne (other earlier)]

/-- Under a key that comes once a record finds what stands there. -/
theorem content?_eq_some_iff {name : String} {tree : Tree} (once : times name members ≤ 1) :
    content? members name = some tree ↔ (some name, tree) ∈ members := by
  induction members with
  | nil => simp [content?]
  | cons member rest ih =>
      obtain ⟨key, first⟩ := member
      rw [times_cons] at once
      by_cases same : key = some name
      · subst key
        have absent : ∀ tree, (some name, tree) ∉ rest := by
          intro tree inside
          have positive : 0 < times name rest := List.countP_pos_iff.2 ⟨_, inside, by simp⟩
          simp only [if_true] at once
          omega
        rw [content?, List.lookup_cons_self, List.mem_cons, or_iff_left (absent tree)]
        simp only [Option.some.injEq, Prod.mk.injEq, true_and]
        exact eq_comm
      · have missed : (some name == key) = false :=
          beq_eq_false_iff_ne.2 fun found => same found.symm
        have unequal : (some name, tree) ≠ (key, first) :=
          fun pair => same (Prod.mk.inj pair).1.symm
        rw [content?, List.lookup_cons, missed, List.mem_cons, or_iff_right unequal]
        exact ih (Nat.le_trans (Nat.le_add_right _ _) once)

/-- A record is read from an object that passes its checks, and from no other. -/
theorem reader_object_eq_ok_iff {record : Record α}
    (distinct : (record.fields.map Field.name).Nodup) {value : α} :
    record.reader false (depth + 1) (.object members .closed) = .ok value ↔
      Accepts record.fields depth members ∧
        record.build depth (content? members) = .ok value := by
  have passes := @checkMembers_eq_ok_iff record.fields depth members distinct []
  simp only [List.not_mem_nil, false_implies, implies_true, and_true] at passes
  rw [← passes, reader]
  cases checkMembers record.fields false depth [] members with
  | error fault => simp
  | ok _ => simp [Reader.ending]

theorem accepts_eq_ok_iff {reader : Reader α} {tree : Tree} :
    accepts reader depth tree = .ok () ↔ ∃ value, reader depth tree = .ok value := by
  unfold accepts
  cases reader depth tree with
  | error fault => exact iff_of_false nofun nofun
  | ok value => exact iff_of_true rfl ⟨value, rfl⟩

/-- No field has to be there: where the contents of the others pass their checks the record can be
put together. -/
def Lenient (record : Record α) : Prop :=
  ∀ depth find, (∀ field ∈ record.fields, ∀ tree, find field.name = some tree →
    field.check depth tree = .ok ()) → ∃ value, record.build depth find = .ok value

theorem lenient_pure (value : α) : (Record.pure value).Lenient :=
  fun _ _ _ => ⟨value, rfl⟩

theorem lenient_defaulted (name : String) (default : α) (reader : Reader α) :
    (defaulted name default reader).Lenient := by
  intro depth find checked
  cases content : find name with
  | none => exact ⟨default, build_absent content⟩
  | some tree =>
      obtain ⟨value, read⟩ := accepts_eq_ok_iff.1 (checked _ (.head _) tree content)
      exact ⟨value, build_present content read⟩

theorem Lenient.and {β : Type} {first : Record (α → β)} {second : Record α}
    (lenient : first.Lenient) (lenient' : second.Lenient) : (first.and second).Lenient := by
  intro depth find checked
  obtain ⟨make, made⟩ := lenient depth find fun field inside =>
    checked field (List.mem_append_left _ inside)
  obtain ⟨value, made'⟩ := lenient' depth find fun field inside =>
    checked field (List.mem_append_right _ inside)
  exact ⟨make value, build_and made made'⟩

/-- A record none of whose fields has to be there is read from every object that passes its
checks. -/
theorem Lenient.exists_read_iff {record : Record α} (lenient : record.Lenient)
    (distinct : (record.fields.map Field.name).Nodup) :
    (∃ value, record.reader false (depth + 1) (.object members .closed) = .ok value) ↔
      Accepts record.fields depth members := by
  simp only [reader_object_eq_ok_iff distinct, exists_and_left, and_iff_left_iff_imp]
  intro accepted
  refine lenient depth _ fun field inside tree content => ?_
  have there := (content?_eq_some_iff (accepted.once field inside)).1 content
  exact accepted.checked field inside tree there

end TokenRelay.Record
