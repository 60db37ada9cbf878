import Mathlib.Data.List.Basic

/-! # File trees with symbolic links

A tree says what there is at each plain path, the names from the root on. A path that is walked may
also have dot segments, and may meet links, which are followed up to a limit. -/

namespace AgentMemory.Foundation

variable {ν β : Type}

inductive Segment (ν : Type) where
  | here
  | up
  | name (n : ν)

def Segment.name? : Segment ν → Option ν
  | .name n => some n
  | _ => none

/-- A path as it is written. -/
structure WalkPath (ν : Type) where
  absolute : Bool
  segments : List (Segment ν)

inductive Entry (ν β : Type) where
  | directory
  | file (content : β)
  | link (target : WalkPath ν)

def Entry.isDirectory : Entry ν β → Bool
  | .directory => true
  | _ => false

def Entry.isLink : Entry ν β → Bool
  | .link _ => true
  | _ => false

structure FileTree (ν β : Type) where
  entry : List ν → Option (Entry ν β)
  root : entry [] = some .directory
  parent : ∀ path n, (entry (path ++ [n])).isSome = true → entry path = some .directory

namespace FileTree

/-- The tree of a table, in which every path has a directory above it. -/
def ofTable [DecidableEq ν] (table : List (List ν × Entry ν β))
    (hroot : (table.lookup []).any Entry.isDirectory = true)
    (hparent : table.all (fun e =>
      e.1.isEmpty || (table.lookup e.1.dropLast).any Entry.isDirectory) = true) :
    FileTree ν β :=
  have directory : ∀ path, (table.lookup path).any Entry.isDirectory = true →
      table.lookup path = some .directory := by
    intro path hdirectory
    cases hentry : table.lookup path with
    | none =>
        rw [hentry] at hdirectory
        cases hdirectory
    | some entry =>
        rw [hentry] at hdirectory
        cases entry with
        | directory => rfl
        | file content => cases hdirectory
        | link target => cases hdirectory
  { entry := fun path => table.lookup path
    root := directory [] hroot
    parent := by
      intro path n hsome
      obtain ⟨entry, hentry⟩ := Option.isSome_iff_exists.mp hsome
      obtain ⟨front, back, htable, -⟩ := List.lookup_eq_some_iff.mp hentry
      have habove := List.all_eq_true.mp hparent (path ++ [n], entry) (by simp [htable])
      exact directory path (by simpa using habove) }

variable (tree : FileTree ν β)

/-- Walks the segments from a directory; `follow` goes on from there when a link is met. -/
def walkWith (follow : List ν → WalkPath ν → Option (List ν)) :
    List ν → List (Segment ν) → Option (List ν)
  | dir, [] => some dir
  | dir, .here :: rest => walkWith follow dir rest
  | dir, .up :: rest => walkWith follow dir.dropLast rest
  | dir, .name n :: rest =>
      match tree.entry (dir ++ [n]) with
      | some .directory => walkWith follow (dir ++ [n]) rest
      | some (.file _) => if rest.isEmpty then some (dir ++ [n]) else none
      | some (.link target) => follow dir { target with segments := target.segments ++ rest }
      | none => none

/-- The plain path that a path leads to from a working directory, through at most so many links. -/
def walk : ℕ → List ν → WalkPath ν → Option (List ν)
  | 0, cwd, path => tree.walkWith (fun _ _ => none) (if path.absolute then [] else cwd) path.segments
  | links + 1, cwd, path =>
      tree.walkWith (walk links) (if path.absolute then [] else cwd) path.segments

variable {tree}

/-- Without dots that lead up, and without links on the way, a walk that ends at a file has taken
the names one after the other, and the last of them is that of the file. -/
theorem walkWith_file {follow : List ν → WalkPath ν → Option (List ν)}
    {segments : List (Segment ν)} {start path : List ν} {content : β}
    (hwalk : tree.walkWith follow start segments = some path)
    (hstart : tree.entry start = some .directory)
    (hfile : tree.entry path = some (.file content)) (hup : .up ∉ segments)
    (hlinks : ∀ front, front <+: segments.filterMap Segment.name? →
      ∀ target, tree.entry (start ++ front) ≠ some (.link target)) :
    path = start ++ segments.filterMap Segment.name? ∧
      ∃ front n, segments = front ++ [.name n] := by
  induction segments generalizing start with
  | nil =>
      cases hwalk
      rw [hstart] at hfile
      cases hfile
  | cons segment rest ih =>
      rw [List.mem_cons, not_or] at hup
      cases segment with
      | here =>
          obtain ⟨hpath, front, n, hrest⟩ := ih hwalk hstart hup.2 hlinks
          exact ⟨hpath, .here :: front, n, by rw [hrest, List.cons_append]⟩
      | up => exact absurd rfl hup.1
      | name n =>
          have hhere := hlinks [n] (by simp [Segment.name?])
          simp only [walkWith] at hwalk
          cases hentry : tree.entry (start ++ [n]) with
          | none =>
              rw [hentry] at hwalk
              cases hwalk
          | some entry =>
              rw [hentry] at hwalk
              cases entry with
              | directory =>
                  obtain ⟨hpath, front, m, hrest⟩ :=
                    ih hwalk hentry hup.2 fun front hfront target => by
                    have hlink := hlinks (n :: front) (by simpa [Segment.name?] using hfront) target
                    simpa using hlink
                  refine ⟨?_, .name n :: front, m, by rw [hrest, List.cons_append]⟩
                  rw [hpath]
                  simp [Segment.name?]
              | file content =>
                  cases rest with
                  | nil =>
                      cases hwalk
                      exact ⟨by simp [Segment.name?], [], n, rfl⟩
                  | cons next rest => cases hwalk
              | link target => exact absurd hentry (hhere target)

/-- The same for a walk of any number of links. -/
theorem walk_file {links : ℕ} {cwd : List ν} {written : WalkPath ν} {path : List ν} {content : β}
    (hwalk : tree.walk links cwd written = some path) (habsolute : written.absolute = true)
    (hfile : tree.entry path = some (.file content)) (hup : .up ∉ written.segments)
    (hlinks : ∀ front, front <+: written.segments.filterMap Segment.name? →
      ∀ target, tree.entry front ≠ some (.link target)) :
    path = written.segments.filterMap Segment.name? ∧
      ∃ front n, written.segments = front ++ [.name n] := by
  cases links with
  | zero =>
      rw [walk, if_pos habsolute] at hwalk
      exact walkWith_file hwalk tree.root hfile hup hlinks
  | succ links =>
      rw [walk, if_pos habsolute] at hwalk
      exact walkWith_file hwalk tree.root hfile hup hlinks

end FileTree

end AgentMemory.Foundation
