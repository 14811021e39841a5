/-
# What trees inherit from their tokens

Supplies that a property of trees that every array and object has if the values right below it
have it, and every other tree if its token has it, is one that the tree of a whole text has. A tree
grows value by value, so it is enough to follow what is open.
-/

import TokenRelay.Json.Tree

namespace TokenRelay

/-- The values right below a tree. -/
def Tree.parts : Tree → List Tree
  | .array items _ => items
  | .object members _ => members.map Prod.snd
  | _ => []

/-- A property of whole trees that they inherit from a property of their parts, which is no
stronger: arrays and objects have it as soon as their parts have that one, finished or not. -/
structure Tree.Inherited (part whole : Tree → Prop) : Prop where
  part_of_whole : ∀ tree, whole tree → part tree
  broken : whole .broken
  array : ∀ items ending, (∀ item ∈ items, part item) → whole (.array items ending)
  object : ∀ members ending, (∀ member ∈ members, part member.2) → whole (.object members ending)

/-- The value that a token is on its own has a property. -/
def Token.Gives (whole : Tree → Prop) : Token → Prop
  | .null => whole .null
  | .bool value => whole (.bool value)
  | .number value => whole (.number value)
  | .string value => whole (.string value)
  | .openObject | .closeObject | .openArray | .closeArray | .colon | .comma | .stop => True

namespace Document

/-- The values in an unfinished array or object. -/
def Open.parts : Open → List Tree
  | .array items => items
  | .object members _ => members.map Prod.snd

/-- The values in what is open have one property, and the document has the other if it is
finished. -/
def Growth.Keeps (part whole : Tree → Prop) : Growth → Prop
  | .growing stack _ => ∀ unfinished ∈ stack, ∀ tree ∈ unfinished.parts, part tree
  | .done document => whole document.tree

variable {part whole : Tree → Prop} (inherited : Tree.Inherited part whole)

include inherited

theorem whole_end {unfinished : Open} (inside : ∀ tree ∈ unfinished.parts, part tree)
    {last : Option Tree} (lastToo : ∀ tree ∈ last, part tree) (ending : Ending) :
    whole (unfinished.end last ending) := by
  cases unfinished with
  | array items =>
      refine inherited.array _ _ fun tree there => ?_
      simp only [List.mem_reverse, List.mem_append, Option.mem_toList] at there
      exact there.elim (lastToo tree) (inside tree)
  | object members key =>
      have earlier : ∀ member ∈ members, part member.2 :=
        fun member there => inside member.2 (List.mem_map_of_mem there)
      cases key with
      | none =>
          exact inherited.object _ _ fun member there => earlier member (List.mem_reverse.1 there)
      | some key =>
          refine inherited.object _ _ fun member there => ?_
          rcases List.mem_cons.1 (List.mem_reverse.1 there) with rfl | before
          · cases last with
            | none => exact inherited.part_of_whole _ inherited.broken
            | some tree => exact lastToo tree rfl
          · exact earlier member before

/-- A text that stops being JSON has a tree of what was there. The induction is on what is open,
from the inside out. -/
theorem whole_abandon {stack : List Open}
    (inside : ∀ unfinished ∈ stack, ∀ tree ∈ unfinished.parts, part tree) (last : Option Tree)
    (lastToo : ∀ tree ∈ last, whole tree) (ending : Ending) :
    whole (abandon last ending stack) := by
  induction stack generalizing last ending with
  | nil =>
      cases last with
      | none => exact inherited.broken
      | some tree => exact lastToo tree rfl
  | cons innermost outer ih =>
      rw [List.forall_mem_cons] at inside
      refine ih inside.2 _ ?_ .broken
      rintro tree ⟨⟩
      exact whole_end inherited inside.1
        (fun tree there => inherited.part_of_whole tree (lastToo tree there)) ending

variable {stack : List Open}

theorem keeps_halt (inside : ∀ unfinished ∈ stack, ∀ tree ∈ unfinished.parts, part tree)
    (ending : Ending) : (Growth.halt stack ending).Keeps part whole :=
  whole_abandon inherited inside none nofun ending

theorem keeps_place (inside : ∀ unfinished ∈ stack, ∀ tree ∈ unfinished.parts, part tree)
    {value : Tree} (holds : whole value) : (Growth.place stack value).Keeps part whole := by
  have below := inherited.part_of_whole value holds
  unfold Growth.place
  split
  · exact holds
  all_goals
    rw [List.forall_mem_cons] at inside
    refine List.forall_mem_cons.2 ⟨?_, inside.2⟩
  · exact List.forall_mem_cons.2 ⟨below, inside.1⟩
  · exact List.forall_mem_cons.2 ⟨below, inside.1⟩
  · exact inside.1

theorem keeps_value (inside : ∀ unfinished ∈ stack, ∀ tree ∈ unfinished.parts, part tree)
    {token : Token} (gives : token.Gives whole) :
    (Growth.value stack token).Keeps part whole := by
  have opened (unfinished : Open) (empty : unfinished.parts = []) :
      ∀ other ∈ unfinished :: stack, ∀ tree ∈ other.parts, part tree := by
    refine List.forall_mem_cons.2 ⟨?_, inside⟩
    rw [empty]
    exact List.forall_mem_nil _
  cases token with
  | null | bool | number | string => exact keeps_place inherited inside gives
  | openArray => exact opened (.array []) rfl
  | openObject => exact opened (.object [] none) rfl
  | closeObject | closeArray | colon | comma | stop => exact keeps_halt inherited inside .broken

/-- One more token keeps the property if its own value has it. -/
theorem Growth.Keeps.step {growth : Growth} (keeps : growth.Keeps part whole) {token : Token}
    (gives : token.Gives whole) : (growth.step token).Keeps part whole := by
  cases growth with
  | done document => exact keeps
  | growing stack expects =>
      have closedArray {items : List Tree} {outer : List Open}
          (inside : ∀ unfinished ∈ .array items :: outer, ∀ tree ∈ unfinished.parts, part tree) :
          (Growth.place outer (.array items.reverse .closed)).Keeps part whole := by
        rw [List.forall_mem_cons] at inside
        refine keeps_place inherited inside.2 (inherited.array _ _ fun tree there => ?_)
        exact inside.1 tree (List.mem_reverse.1 there)
      have closedObject {members : List (Option String × Tree)} {key : Option (Option String)}
          {outer : List Open}
          (inside : ∀ unfinished ∈ .object members key :: outer, ∀ tree ∈ unfinished.parts,
            part tree) :
          (Growth.place outer (.object members.reverse .closed)).Keeps part whole := by
        rw [List.forall_mem_cons] at inside
        refine keeps_place inherited inside.2 (inherited.object _ _ fun member there => ?_)
        exact inside.1 member.2 (List.mem_map_of_mem (List.mem_reverse.1 there))
      simp only [Growth.step]
      split
      · exact closedArray keeps
      · exact closedArray keeps
      · exact keeps
      · exact closedObject keeps
      · exact closedObject keeps
      · exact keeps
      · exact List.forall_mem_cons.2 (List.forall_mem_cons.1 keeps)
      · exact List.forall_mem_cons.2 (List.forall_mem_cons.1 keeps)
      · unfold Growth.noKey
        split <;> exact keeps_halt inherited keeps _
      · unfold Growth.noKey
        split <;> exact keeps_halt inherited keeps _
      · exact keeps
      · exact keeps_value inherited keeps gives
      · exact keeps_value inherited keeps gives
      · exact keeps_halt inherited keeps _
      · exact keeps_halt inherited keeps _

/-- So the tree of a text has the property if all its tokens give it. -/
theorem whole_ofTokens {tokens : List Token} (gives : ∀ token ∈ tokens, token.Gives whole) :
    whole (ofTokens tokens).tree := by
  have grown (growth : Growth) (keeps : growth.Keeps part whole) :
      (tokens.foldl Growth.step growth).Keeps part whole := by
    induction tokens generalizing growth with
    | nil => exact keeps
    | cons token rest ih =>
        rw [List.forall_mem_cons] at gives
        exact ih gives.2 _ (keeps.step inherited gives.1)
  have all := grown (.growing [] .value) (List.forall_mem_nil _)
  unfold ofTokens
  revert all
  generalize tokens.foldl Growth.step (.growing [] .value) = growth
  intro all
  cases growth with
  | done document => exact all
  | growing stack expects => exact whole_abandon inherited all none nofun .broken

end Document

end TokenRelay
