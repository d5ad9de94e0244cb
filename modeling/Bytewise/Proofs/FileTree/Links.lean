import Bytewise.Disk

/-! Symbolic links on the way of a spelling. Where segments lead is told one after the other, and
the spelling of a link leads to where its own segments do. Resolving finds this once links are
followed deeply enough, finds nothing else at any depth, and comes to the spelling alone where no
links are.
-/

namespace Bytewise.Disk

/-- Where segments lead from a path. A link leads where its spelling does, and what is behind it is
followed from there.
-/
inductive Leads (disk : Disk) : Path → List String → Path → Prop
  | done {path} : Leads disk path [] path
  | through {path segment rest target} (noLink : disk.link? path segment = none)
    (behind : Leads disk (path.follow segment) rest target)
    : Leads disk path (segment :: rest) target
  | link {path segment spelling middle rest target}
    (found : disk.link? path segment = some spelling)
    (linked : Leads disk (path.start spelling) (Path.segments spelling) middle)
    (behind : Leads disk middle rest target)
    : Leads disk path (segment :: rest) target

variable {disk : Disk} {path target : Path} {segments : List String}

-----------------------------------------------------------------------------------------
-- Any depth
-----------------------------------------------------------------------------------------

section Step

variable {lead? deeper? : Path → String → Option Path}

/-- A step with links that lead as far leads as far. -/
theorem step_mono
    (deeper
      : ∀ directory spelling target,
          lead? directory spelling = some target → deeper? directory spelling = some target)
    {segment : String} (stepped : disk.step lead? path segment = some target)
    : disk.step deeper? path segment = some target := by
  rw [step] at stepped ⊢
  cases found : disk.link? path segment with
  | none =>
      rw [found] at stepped
      exact stepped
  | some spelling =>
      rw [found] at stepped
      exact deeper _ _ _ stepped

/-- So do any number of steps, by induction on the segments. -/
theorem foldlM_step_mono
    (deeper
      : ∀ directory spelling target,
          lead? directory spelling = some target → deeper? directory spelling = some target)
    (walked : segments.foldlM (disk.step lead?) path = some target)
    : segments.foldlM (disk.step deeper?) path = some target := by
  induction segments generalizing path with
  | nil => exact walked
  | cons segment rest ih =>
      rw [List.foldlM_cons] at walked ⊢
      obtain ⟨next, stepped, behind⟩ := Option.bind_eq_some_iff.mp walked
      exact Option.bind_eq_some_iff.mpr ⟨next, step_mono deeper stepped, ih behind⟩

/-- Steps lead where their segments do if links are followed to where these lead, by induction on
the segments.
-/
theorem leads_of_foldlM
    (sound
      : ∀ directory spelling target,
          lead? directory spelling = some target
          → disk.Leads (directory.start spelling) (Path.segments spelling) target)
    (walked : segments.foldlM (disk.step lead?) path = some target)
    : disk.Leads path segments target := by
  induction segments generalizing path with
  | nil =>
      cases walked
      exact .done
  | cons segment rest ih =>
      rw [List.foldlM_cons] at walked
      obtain ⟨next, stepped, behind⟩ := Option.bind_eq_some_iff.mp walked
      rw [step] at stepped
      cases found : disk.link? path segment with
      | none =>
          rw [found] at stepped
          cases stepped
          exact .through found (ih behind)
      | some spelling =>
          rw [found] at stepped
          exact .link found (sound _ _ _ stepped) (ih behind)

end Step

/-- What is followed at some depth is followed at any greater one. -/
theorem follow?_mono {depth more : Nat} (le : depth ≤ more) {spelling : String}
    (followed : disk.follow? depth path spelling = some target)
    : disk.follow? more path spelling = some target := by
  induction depth generalizing more path spelling target with
  | zero => cases followed
  | succ depth ih =>
      obtain ⟨more, rfl⟩ := Nat.exists_eq_add_of_lt le
      exact foldlM_step_mono (fun _ _ _ => ih (Nat.le_add_right ..)) followed

/-- At any depth, only what a spelling leads to is found, by induction on the depth. -/
theorem leads_of_follow? {depth : Nat} {spelling : String}
    (followed : disk.follow? depth path spelling = some target)
    : disk.Leads (path.start spelling) (Path.segments spelling) target := by
  induction depth generalizing path spelling target with
  | zero => cases followed
  | succ depth ih => exact leads_of_foldlM (fun _ _ _ => ih) followed

/-- What segments lead to is found at some depth, by induction on how they lead there; witness: the
greater of the depths that a link and what is behind it need, and one more for the link.
-/
theorem Leads.exists_depth (leads : disk.Leads path segments target)
    : ∃ depth, segments.foldlM (disk.step (disk.follow? depth)) path = some target := by
  induction leads with
  | done => exact ⟨0, rfl⟩
  | through noLink _ ih =>
      obtain ⟨depth, walked⟩ := ih
      refine ⟨depth, ?_⟩
      rw [List.foldlM_cons, step, noLink]
      exact walked
  | link found _ _ linkIh behindIh =>
      obtain ⟨depth, linked⟩ := linkIh
      obtain ⟨otherDepth, behind⟩ := behindIh
      have followed := follow?_mono (Nat.le_max_left (depth + 1) otherDepth)
        (show disk.follow? (depth + 1) _ _ = some _ from linked)
      refine ⟨max (depth + 1) otherDepth, ?_⟩
      rw [List.foldlM_cons, step, found]
      refine Option.bind_eq_some_iff.mpr ⟨_, followed, ?_⟩
      exact foldlM_step_mono (fun _ _ _ => follow?_mono (Nat.le_max_right ..)) behind

/-- Links are followed, at some depth, to where a spelling leads and nowhere else. -/
theorem exists_walk_iff {spelling : String}
    : (∃ depth, disk.walk (disk.follow? depth) path spelling = some target)
      ↔ disk.Leads (path.start spelling) (Path.segments spelling) target :=
  ⟨fun ⟨_, walked⟩ => leads_of_foldlM (fun _ _ _ => leads_of_follow?) walked,
    fun leads => leads.exists_depth⟩

-----------------------------------------------------------------------------------------
-- Loops, and disks without links
-----------------------------------------------------------------------------------------

/-- A link that stores its own name leads nowhere, by induction on the depth. -/
theorem walk_eq_none_of_selfLink {name : String} (single : Path.segments name = [name])
    (relative : path.start name = path) (link : disk.link? path name = some name) (depth : Nat)
    : disk.walk (disk.follow? depth) path name = none := by
  have walked (lead? : Path → String → Option Path)
      : disk.walk lead? path name = lead? path name := by
    rw [walk, single, relative, List.foldlM_cons, step, link]
    exact bind_pure _
  induction depth with
  | zero => exact walked _
  | succ depth ih => exact (walked _).trans ih

/-- Without links, a spelling alone decides what it stands for. -/
theorem resolve?_ofTree (tree : FileTree) (spelling : String)
    : (ofTree tree).resolve? spelling = some (tree.resolve spelling) := by
  have stepped (lead? : Path → String → Option Path)
      : (ofTree tree).step lead? = fun path segment => some (path.follow segment) := by
    funext path segment
    have noLink : (ofTree tree).link? path segment = none := by
      rw [link?]
      split <;> rfl
    rw [step, noLink]
  rw [resolve?, walk, stepped]
  exact List.foldlM_pure

end Bytewise.Disk
