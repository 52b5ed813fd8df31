import SystemMenu.Files.Tree

/-!
# What is written is read back

Every file of a tree that came about by the operations on it has its content. So what was written under a
path is what is read under this path: the way to the file leads through directories, and a file that is
new or changed stands in no such way. Whether something can be written under a path is a matter of the
tree and the path alone.

## Main statements

* `FileTree.write_eq_ok`: what writing does.
* `FileTree.Complete`, `FileTree.Complete.write`: every file has its content, also after a change.
* `FileTree.Complete.readBytes_write`: reading what was written.
-/

namespace SystemMenu

/-- A computation gives a result if its first step does and what follows it does. -/
theorem bind_eq_ok {ε α β : Type} {first : Except ε α} {next : α → Except ε β} {result : β} :
    first >>= next = .ok result ↔ ∃ value, first = .ok value ∧ next value = .ok result := by
  cases first with
  | error cause =>
      constructor
      · rintro ⟨⟩
      · rintro ⟨_, ⟨⟩, _⟩
  | ok value =>
      constructor
      · exact fun h => ⟨value, rfl, h⟩
      · rintro ⟨_, ⟨⟩, h⟩
        exact h

namespace FileTree

open Text.Utf8 (Bytes)

variable {tree after : FileTree} {path : String} {bytes : Bytes}

/-- A path that is well-formed leads where its components lead. Only a path that may lead to a file leads to
one. -/
theorem locate_eq_ok {place : Place} :
    tree.locate path = .ok place ↔ path.toList.contains '\x00' = false ∧ path ≠ "" ∧
      tree.follow (tree.origin path) (Path.components path) = .ok place ∧
      ∀ id, tree.node? place = some (.file id) → Path.namesDirectory path = false := by
  unfold locate
  split
  · simp_all
  · rename_i valid
    split
    · simp_all
    · rename_i said
      rw [bind_eq_ok]
      constructor
      · rintro ⟨found, way, there⟩
        split at there
        · rename_i id here
          split at there
          · cases there
          · rename_i plain
            cases there
            exact ⟨by simpa using valid, said, way, fun _ _ => by simpa using plain⟩
        · rename_i noFile
          cases there
          exact ⟨by simpa using valid, said, way, fun id here => absurd here (noFile id)⟩
      · rintro ⟨-, -, way, plain⟩
        refine ⟨place, way, ?_⟩
        split
        · rename_i id here
          rw [if_neg (by simp [plain id here])]
        · rfl

/-- Puts a content where a path leads: to the file that is there, or to a new one. -/
def put (tree : FileTree) (place : Place) (bytes : Bytes) : FileTree :=
  match tree.node? place with
  | some (.file id) => { tree with contents := tree.contents.set id bytes }
  | _ =>
    { tree with
        nodes := tree.nodes ++ [(place, .file tree.contents.length)]
        contents := tree.contents ++ [bytes] }

/-- Something can be written where no directory is, if the path may lead to a file. -/
def Takes (tree : FileTree) (path : String) (place : Place) : Prop :=
  tree.locate path = .ok place ∧ tree.node? place ≠ some .directory ∧
    (tree.node? place = none → Path.namesDirectory path = false)

theorem write_eq_ok :
    tree.write path bytes = .ok after ↔
      ∃ place, tree.Takes path place ∧ after = tree.put place bytes := by
  simp only [write, bind_eq_ok, Takes, and_assoc]
  refine exists_congr fun place => and_congr_right fun _ => ?_
  rw [put]
  cases tree.node? place with
  | none =>
      cases Path.namesDirectory path with
      | false => simpa using eq_comm
      | true => simp
  | some node =>
      cases node with
      | directory => simp
      | file id => simpa using eq_comm

/-- Whether something can be written does not depend on what it is. -/
theorem exists_write (written : tree.write path bytes = .ok after) (other : Bytes) :
    ∃ next, tree.write path other = .ok next := by
  obtain ⟨place, takes, -⟩ := write_eq_ok.1 written
  exact ⟨_, write_eq_ok.2 ⟨place, takes, rfl⟩⟩

/-- Nothing that stands anywhere is moved by putting a content somewhere. -/
theorem node?_put {place other : Place} {node : Node} (here : tree.node? other = some node) :
    (tree.put place bytes).node? other = some node := by
  unfold node? at here ⊢
  split at here
  · rename_i root
    rw [if_pos root]
    exact here
  · rename_i below
    rw [if_neg below]
    have stays : (tree.nodes ++ [(place, Node.file tree.contents.length)]).lookup other =
        some node := by
      rw [List.lookup_append, here, Option.some_or]
    unfold put
    split
    · exact here
    · exact stays

/-- A way that leads somewhere still leads there if everything on it is still there. -/
theorem follow_mono (stays : ∀ place node, tree.node? place = some node →
      after.node? place = some node) {names : List String} {start place : Place}
    (found : tree.follow start names = .ok place) : after.follow start names = .ok place := by
  induction names generalizing start with
  | nil => exact found
  | cons name rest ih =>
      unfold follow at found ⊢
      split at found
      · cases found
      · rename_i short
        rw [if_neg short]
        cases rest with
        | nil => exact found
        | cons next others =>
            cases here : tree.node? (neighbour start name) with
            | none => simp [here] at found
            | some node =>
                cases node with
                | file id => simp [here] at found
                | directory =>
                    simp only [here] at found
                    simp only [stays _ _ here]
                    exact ih found

/-- Every file has its content. -/
def Complete (tree : FileTree) : Prop :=
  ∀ place id, (place, Node.file id) ∈ tree.nodes → id < tree.contents.length

theorem complete_empty (home : Place) : (empty home).Complete := by
  simp [Complete, empty]

theorem Complete.of_node? (complete : tree.Complete) {place : Place} {id : Nat}
    (here : tree.node? place = some (.file id)) : id < tree.contents.length := by
  unfold node? at here
  split at here
  · cases here
  · obtain ⟨before, rest, nodes, -⟩ := List.lookup_eq_some_iff.1 here
    exact complete place id (by simp [nodes])

theorem Complete.put (complete : tree.Complete) (place : Place) (bytes : Bytes) :
    (tree.put place bytes).Complete := by
  unfold FileTree.put
  split
  · intro other id member
    rw [List.length_set]
    exact complete other id member
  · intro other id member
    rw [List.length_append]
    obtain old | new := List.mem_append.1 member
    · exact Nat.lt_add_right _ (complete other id old)
    · cases List.mem_singleton.1 new
      exact Nat.lt_succ_self _

theorem Complete.write (complete : tree.Complete) (written : tree.write path bytes = .ok after) :
    after.Complete := by
  obtain ⟨place, -, rfl⟩ := write_eq_ok.1 written
  exact complete.put place bytes

theorem Complete.createAlong (complete : tree.Complete) {start : Place} {names : List String}
    (created : tree.createAlong start names = .ok after) : after.Complete := by
  induction names generalizing tree start with
  | nil =>
      cases created
      exact complete
  | cons name rest ih =>
      unfold FileTree.createAlong at created
      split at created
      · cases created
      · dsimp only at created
        split at created
        · exact ih complete created
        · cases created
        · refine ih ?_ created
          intro place id member
          obtain old | new := List.mem_append.1 member
          · exact complete place id old
          · simp at new

theorem Complete.save (complete : tree.Complete) (saved : tree.save path bytes = .ok after) :
    after.Complete := by
  obtain ⟨between, created, written⟩ := bind_eq_ok.1 saved
  exact (complete.createAlong created).write written

theorem Complete.remove (complete : tree.Complete) (removed : tree.remove path = .ok after) :
    after.Complete := by
  obtain ⟨place, -, taken⟩ := bind_eq_ok.1 removed
  split at taken
  · cases taken
    exact fun other id member => complete other id ((List.mem_filter.1 member).1)
  · cases taken
  · cases taken

/-- Where a content was put is a file that has it. -/
theorem Complete.node?_put_self (complete : tree.Complete) {place : Place}
    (free : tree.node? place ≠ some .directory) (bytes : Bytes) :
    ∃ id, (tree.put place bytes).node? place = some (.file id) ∧
      (tree.put place bytes).contents[id]? = some bytes := by
  cases here : tree.node? place with
  | none =>
      have below : place ≠ [] := by
        rintro rfl
        cases here
      rw [node?, if_neg below] at here
      refine ⟨tree.contents.length, ?_, ?_⟩
      · simp [node?, FileTree.put, below, here, List.lookup_append]
      · simp [node?, FileTree.put, below, here]
  | some node =>
      cases node with
      | directory => exact absurd here free
      | file id =>
          refine ⟨id, FileTree.node?_put here, ?_⟩
          simp [FileTree.put, here, complete.of_node? here]

/-- What was put under a path is found under this path. -/
theorem Complete.locate_put (complete : tree.Complete) {place : Place}
    (takes : tree.Takes path place) (bytes : Bytes) :
    (tree.put place bytes).locate path = .ok place := by
  obtain ⟨located, free, ending⟩ := takes
  obtain ⟨valid, said, way, plain⟩ := locate_eq_ok.1 located
  obtain ⟨id, new, -⟩ := complete.node?_put_self free bytes
  have origin : (tree.put place bytes).origin path = tree.origin path := by
    unfold FileTree.put
    split <;> rfl
  refine locate_eq_ok.2 ⟨valid, said, ?_, ?_⟩
  · rw [origin]
    exact follow_mono (fun _ _ => node?_put) way
  · intro _ _
    cases here : tree.node? place with
    | none => exact ending here
    | some node =>
        cases node with
        | directory => exact absurd here free
        | file id => exact plain id here

/-- Reading gives what was written last. -/
theorem Complete.readBytes_write (complete : tree.Complete)
    (written : tree.write path bytes = .ok after) : after.readBytes path = .ok bytes := by
  obtain ⟨place, takes, rfl⟩ := write_eq_ok.1 written
  obtain ⟨id, new, content⟩ := complete.node?_put_self takes.2.1 bytes
  simp [readBytes, openAt, nodeAt, complete.locate_put takes, new, readHandle, content, bind, Except.bind]

end FileTree

end SystemMenu
