import Mathlib.Data.List.Induction

/-!
# Walking paths

A tree of files maps locations, the names from the root down, to nodes. A walk
takes a path component by component: a name enters a directory or follows a
symbolic link, `..` goes to the parent of where the walk stands. `normalize`
reads the same components without looking at any node.
-/

namespace Again.Lib

variable {N : Type}

inductive PathStep (N : Type) where
  /-- An empty component or `.`. -/
  | here
  | up
  | name (n : N)
deriving DecidableEq

inductive FileNode (N : Type) where
  | directory
  | file
  | link (absolute : Bool) (target : List (PathStep N))
deriving DecidableEq

/-- Nodes by location: the root is a directory, and so is the parent of every node. -/
structure Files (N : Type) where
  node : List N → Option (FileNode N)
  root : node [] = some .directory
  parent : ∀ {place : List N} {n : N} {x : FileNode N}, node (place ++ [n]) = some x → node place = some .directory

namespace Files

variable {files : Files N}

/-- Where a link's target is read from. -/
def start (absolute : Bool) (place : List N) : List N := if absolute then [] else place

/-- From the directory `place` the components lead to the directory or file at the last argument. -/
inductive Walk (files : Files N) : List N → List (PathStep N) → List N → Prop
  | done {place : List N} : Walk files place [] place
  | here {place goal : List N} {steps : List (PathStep N)} :
      Walk files place steps goal → Walk files place (.here :: steps) goal
  | up {place goal : List N} {steps : List (PathStep N)} :
      Walk files place.dropLast steps goal → Walk files place (.up :: steps) goal
  | enter {place goal : List N} {n : N} {steps : List (PathStep N)} :
      files.node (place ++ [n]) = some .directory → Walk files (place ++ [n]) steps goal →
        Walk files place (.name n :: steps) goal
  | reach {place : List N} {n : N} :
      files.node (place ++ [n]) = some .file → Walk files place [.name n] (place ++ [n])
  | follow {place goal : List N} {n : N} {absolute : Bool} {target steps : List (PathStep N)} :
      files.node (place ++ [n]) = some (.link absolute target) →
        Walk files (start absolute place) (target ++ steps) goal → Walk files place (.name n :: steps) goal

/-- The same walk, but a name in last place is not followed. -/
inductive Lands (files : Files N) : List N → List (PathStep N) → List N → Prop
  | done {place : List N} : Lands files place [] place
  | here {place goal : List N} {steps : List (PathStep N)} :
      Lands files place steps goal → Lands files place (.here :: steps) goal
  | up {place goal : List N} {steps : List (PathStep N)} :
      Lands files place.dropLast steps goal → Lands files place (.up :: steps) goal
  | enter {place goal : List N} {n : N} {steps : List (PathStep N)} :
      files.node (place ++ [n]) = some .directory → Lands files (place ++ [n]) steps goal →
        Lands files place (.name n :: steps) goal
  | stop {place : List N} {n : N} {x : FileNode N} :
      files.node (place ++ [n]) = some x → Lands files place [.name n] (place ++ [n])
  | follow {place goal : List N} {n : N} {absolute : Bool} {target steps : List (PathStep N)} :
      files.node (place ++ [n]) = some (.link absolute target) → steps ≠ [] →
        Lands files (start absolute place) (target ++ steps) goal → Lands files place (.name n :: steps) goal

variable {place goal : List N} {steps : List (PathStep N)}

theorem Walk.unique {goal' : List N} (h : Walk files place steps goal) (h' : Walk files place steps goal') :
    goal = goal' := by
  induction h with
  | done =>
    cases h'
    rfl
  | here _ ih =>
    cases h' with
    | here h' => exact ih h'
  | up _ ih =>
    cases h' with
    | up h' => exact ih h'
  | enter hn _ ih =>
    cases h' with
    | enter _ h' => exact ih h'
    | reach hn' | follow hn' _ => simp [hn] at hn'
  | reach hn =>
    cases h' with
    | reach _ => rfl
    | enter hn' _ | follow hn' _ => simp [hn] at hn'
  | follow hn _ ih =>
    cases h' with
    | enter hn' _ | reach hn' => simp [hn] at hn'
    | follow hn' h' =>
      rw [hn] at hn'
      cases hn'
      exact ih h'

/-- A walk to a directory can be carried on from there. -/
theorem Walk.trans {middle : List N} {rest : List (PathStep N)} (h : Walk files place steps middle)
    (hmiddle : files.node middle = some .directory) (hrest : Walk files middle rest goal) :
    Walk files place (steps ++ rest) goal := by
  induction h with
  | done => exact hrest
  | here _ ih => exact .here (ih hmiddle hrest)
  | up _ ih => exact .up (ih hmiddle hrest)
  | enter hn _ ih => exact .enter hn (ih hmiddle hrest)
  | reach hn => simp [hn] at hmiddle
  | follow hn _ ih =>
    have hw := ih hmiddle hrest
    rw [List.append_assoc] at hw
    exact .follow hn hw

/-- A directory is reached by its own names. -/
theorem walk_names (h : files.node place = some .directory) : Walk files [] (place.map .name) place := by
  induction place using List.reverseRecOn with
  | nil => exact .done
  | append_singleton place n ih =>
    have hparent := files.parent h
    rw [List.map_append]
    exact (ih hparent).trans hparent (.enter h .done)

theorem node_dropLast (h : files.node place = some .directory) : files.node place.dropLast = some .directory := by
  rcases List.eq_nil_or_concat place with rfl | ⟨parent, n, rfl⟩
  · exact files.root
  · rw [List.concat_eq_append] at h ⊢
    rw [List.dropLast_concat]
    exact files.parent h

theorem node_start (absolute : Bool) (h : files.node place = some .directory) :
    files.node (start absolute place) = some .directory := by
  cases absolute
  · exact h
  · exact files.root

/-- Landing on a link or file means: the last component is its name, and the ones before walk to its directory. -/
theorem Lands.last_name (h : Lands files place steps goal) (hplace : files.node place = some .directory)
    (hgoal : files.node goal ≠ some .directory) :
    ∃ init n parent, steps = init ++ [.name n] ∧ goal = parent ++ [n] ∧ Walk files place init parent := by
  induction h with
  | done => exact absurd hplace hgoal
  | here _ ih =>
    obtain ⟨init, n, parent, rfl, rfl, hw⟩ := ih hplace hgoal
    exact ⟨.here :: init, n, parent, rfl, rfl, .here hw⟩
  | up _ ih =>
    obtain ⟨init, n, parent, rfl, rfl, hw⟩ := ih (node_dropLast hplace) hgoal
    exact ⟨.up :: init, n, parent, rfl, rfl, .up hw⟩
  | enter hn _ ih =>
    obtain ⟨init, k, parent, rfl, rfl, hw⟩ := ih hn hgoal
    exact ⟨_ :: init, k, parent, rfl, rfl, .enter hn hw⟩
  | stop _ => exact ⟨[], _, _, rfl, rfl, .done⟩
  | @follow _ _ _ _ target steps hn hsteps _ ih =>
    obtain ⟨init, k, parent, hinit, rfl, hw⟩ := ih (node_start _ hplace) hgoal
    -- The last component of the whole is the last of what followed the link.
    obtain ⟨before, last, rfl⟩ := List.eq_nil_or_concat steps |>.resolve_left hsteps
    rw [List.concat_eq_append] at hinit ⊢
    rw [← List.append_assoc] at hinit
    obtain ⟨rfl, hlast⟩ := List.append_inj' hinit rfl
    exact ⟨_ :: before, k, parent, by rw [hlast, List.cons_append], rfl, .follow hn hw⟩

/-- The converse: a walk to a directory, then one of its names. -/
theorem Walk.land {parent : List N} {init : List (PathStep N)} {n : N} {x : FileNode N}
    (h : Walk files place init parent) (hx : files.node (parent ++ [n]) = some x) :
    Lands files place (init ++ [.name n]) (parent ++ [n]) := by
  have hparent := files.parent hx
  induction h with
  | done => exact .stop hx
  | here _ ih => exact .here (ih hx hparent)
  | up _ ih => exact .up (ih hx hparent)
  | enter hn _ ih => exact .enter hn (ih hx hparent)
  | reach hn => simp [hn] at hparent
  | follow hn _ ih =>
    have hl := ih hx hparent
    rw [List.append_assoc] at hl
    exact .follow hn (by simp) hl

/-- A link is left by its target: the walk to the target's directory, then the target's last name. -/
theorem Walk.through {parent : List N} {init : List (PathStep N)} {n k : N} {absolute : Bool}
    (hn : files.node (place ++ [n]) = some (.link absolute (init ++ [.name k])))
    (hinit : Walk files (start absolute place) init parent) (hparent : files.node parent = some .directory)
    (hk : Walk files parent [.name k] goal) : Walk files place [.name n] goal := by
  refine .follow hn ?_
  rw [List.append_nil]
  exact hinit.trans hparent hk

/-- The lexical reading: `..` drops the last name, and fails only at the root. -/
def normalize : List N → List (PathStep N) → Option (List N)
  | place, [] => some place
  | place, .here :: steps => normalize place steps
  | place, .up :: steps => if place = [] then none else normalize place.dropLast steps
  | place, .name n :: steps => normalize (place ++ [n]) steps

/-- Every name of the path is a directory at its lexical position. -/
def Straight (files : Files N) : List N → List (PathStep N) → Prop
  | _, [] => True
  | place, .here :: steps => Straight files place steps
  | place, .up :: steps => Straight files place.dropLast steps
  | place, .name n :: steps => files.node (place ++ [n]) = some .directory ∧ Straight files (place ++ [n]) steps

/-- On a straight path the lexical reading is the walk. -/
theorem Straight.walk (h : Straight files place steps) (hgoal : normalize place steps = some goal) :
    Walk files place steps goal := by
  induction steps generalizing place with
  | nil =>
    cases hgoal
    exact .done
  | cons step steps ih =>
    cases step with
    | here => exact .here (ih h hgoal)
    | up =>
      simp only [normalize, Option.ite_none_left_eq_some] at hgoal
      exact .up (ih h hgoal.2)
    | name n => exact .enter h.1 (ih h.2 hgoal)

end Files

end Again.Lib
