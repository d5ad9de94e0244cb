import Mathlib.Logic.Relation
import Bytewise.Path

/-! Spellings of relative paths. A spelling is followed name by name, and what is inserted without
leading anywhere does not change where it leads.
-/

namespace Bytewise.Path

/-- A name that leads down: it is neither empty nor `.` nor `..`, and no slash is in it. -/
structure IsOrdinary (name : String) : Prop where
  nonempty : name ≠ ""
  notStaying : name ≠ "."
  notUp : name ≠ ".."
  slashFree : '/' ∉ name.toList

/-- Where a relative spelling leads to from a directory. The back of it starts where its front leads
to, and `..` cancels the last name whatever it stands for.
-/
inductive Leads : Path → String → Path → Prop
  | empty {directory} : Leads directory "" directory
  | stay {directory} : Leads directory "." directory
  | up {directory} : Leads directory ".." directory.dropLast
  | down {directory name} (ordinary : IsOrdinary name)
    : Leads directory name (directory ++ [name])
  | through {directory middle path front back} (first : Leads directory front middle)
    (second : Leads middle back path)
    : Leads directory (front ++ "/" ++ back) path

/-- A text that leads back to where it started from. -/
inductive Detour : String → Prop
  | stay : Detour "."
  | andBack {name} (ordinary : IsOrdinary name) : Detour (name ++ "/..")

/-- One spelling is made from another by doubling a slash, by a slash behind the end, or by a detour
that is inserted at any place where a name can begin.
-/
inductive Respelled : String → String → Prop
  | doubleSlash (front back) : Respelled (front ++ "/" ++ back) (front ++ "/" ++ "/" ++ back)
  | trailingSlash (spelling) : Respelled spelling (spelling ++ "/")
  | detourFirst {detour} (returns : Detour detour) (spelling)
    : Respelled spelling (detour ++ "/" ++ spelling)
  | detourBetween {detour} (returns : Detour detour) (front back)
    : Respelled (front ++ "/" ++ back) (front ++ "/" ++ detour ++ "/" ++ back)
  | detourInGap {detour} (returns : Detour detour) (front back)
    : Respelled (front ++ "/" ++ "/" ++ back) (front ++ "/" ++ detour ++ "/" ++ back)
  | detourLast {detour} (returns : Detour detour) (spelling)
    : Respelled spelling (spelling ++ "/" ++ detour)
  | detourAfterSlash {detour} (returns : Detour detour) (front)
    : Respelled (front ++ "/") (front ++ "/" ++ detour)

/-- A spelling that does not start from the root. -/
structure IsRelative (spelling : String) : Prop where
  nonempty : spelling ≠ ""
  notAbsolute : isAbsolute spelling = false

-----------------------------------------------------------------------------------------
-- Segments
-----------------------------------------------------------------------------------------

theorem splitSlashes_eq_splitOn (text : List Char) : splitSlashes text = text.splitOn '/' := by
  induction text with
  | nil => rfl
  | cons c rest ih =>
      have rest_ne := List.splitOn_ne_nil '/' rest
      rw [List.splitOn] at ih rest_ne ⊢
      rw [splitSlashes, ih, List.splitOnP_cons_eq_if_modifyHead]
      by_cases slash : c = '/'
      · simp [slash]
      · cases found : rest.splitOnP (· == '/') with
        | nil => exact absurd found rest_ne
        | cons part parts => simp [slash]

/-- The segments around a slash are those in front of it and those behind it. -/
theorem segments_append (front back : String)
    : segments (front ++ "/" ++ back) = segments front ++ segments back := by
  have text : (front ++ "/" ++ back).toList = front.toList ++ '/' :: back.toList := by simp
  simp only [segments, splitSlashes_eq_splitOn, text, List.splitOn_append_cons_self,
    List.map_append]

theorem segments_of_slashFree {spelling : String} (slashFree : '/' ∉ spelling.toList)
    : segments spelling = [spelling] := by
  have whole : (['/'].intercalate [spelling.toList]).splitOn '/' = [spelling.toList] :=
    List.splitOn_intercalate '/' (by simpa using slashFree) (List.cons_ne_nil _ _)
  rw [List.intercalate_singleton] at whole
  rw [segments, splitSlashes_eq_splitOn, whole, List.map_singleton, String.ofList_toList]

/-- The path after all segments of a spelling. -/
def walk (directory : Path) (spelling : String) : Path :=
  (segments spelling).foldl follow directory

theorem resolve_eq_walk {spelling : String} (relative : IsRelative spelling) (directory : Path)
    : resolve directory spelling = walk directory spelling := by
  rw [resolve, start, relative.notAbsolute]
  rfl

theorem walk_append (directory : Path) (front back : String)
    : walk directory (front ++ "/" ++ back) = walk (walk directory front) back := by
  rw [walk, segments_append, List.foldl_append]
  rfl

theorem walk_of_slashFree {name : String} (slashFree : '/' ∉ name.toList) (directory : Path)
    : walk directory name = follow directory name := by
  rw [walk, segments_of_slashFree slashFree]
  rfl

theorem walk_ordinary {name : String} (ordinary : IsOrdinary name) (directory : Path)
    : walk directory name = directory ++ [name] := by
  rw [walk_of_slashFree ordinary.slashFree, follow,
    if_neg (not_or.mpr ⟨ordinary.nonempty, ordinary.notStaying⟩), if_neg ordinary.notUp]

-----------------------------------------------------------------------------------------
-- Where a spelling leads
-----------------------------------------------------------------------------------------

/-- Following all segments leads to one path. Witness: a text without a slash is one step, and one
with a slash is two shorter texts, by induction on the length.
-/
theorem leads_walk (directory : Path) (spelling : String)
    : Leads directory spelling (walk directory spelling) := by
  induction length : spelling.toList.length using Nat.strongRecOn
    generalizing directory spelling with
  | ind _ ih =>
      subst length
      by_cases slash : '/' ∈ spelling.toList
      · obtain ⟨front, back, text⟩ := List.append_of_mem slash
        have whole : spelling = String.ofList front ++ "/" ++ String.ofList back := by
          rw [← String.toList_inj, text]
          simp
        have shorter : front.length < spelling.toList.length
            ∧ back.length < spelling.toList.length := by
          rw [text, List.length_append, List.length_cons]
          omega
        rw [whole, walk_append]
        exact .through (ih _ (by simpa using shorter.1) _ _ rfl)
          (ih _ (by simpa using shorter.2) _ _ rfl)
      · by_cases empty : spelling = ""
        · rw [empty]
          exact .empty
        by_cases stay : spelling = "."
        · rw [stay]
          exact .stay
        by_cases up : spelling = ".."
        · rw [up]
          exact .up
        have ordinary : IsOrdinary spelling := ⟨empty, stay, up, slash⟩
        rw [walk_ordinary ordinary]
        exact .down ordinary

theorem Leads.eq_walk {directory path : Path} {spelling : String}
    (leads : Leads directory spelling path)
    : path = walk directory spelling := by
  induction leads with
  | empty => rfl
  | stay => rfl
  | up => rfl
  | down ordinary => exact (walk_ordinary ordinary _).symm
  | through _ _ first second => rw [walk_append, ← first, second]

/-- A relative spelling leads to the path that it is resolved to, and to no other one. -/
theorem leads_iff {spelling : String} (relative : IsRelative spelling) (directory path : Path)
    : Leads directory spelling path ↔ path = resolve directory spelling := by
  rw [resolve_eq_walk relative]
  constructor
  · exact Leads.eq_walk
  · rintro rfl
    exact leads_walk directory spelling

-----------------------------------------------------------------------------------------
-- Spelling the same path
-----------------------------------------------------------------------------------------

theorem walk_detour {detour : String} (returns : Detour detour) (directory : Path)
    : walk directory detour = directory := by
  cases returns with
  | stay => rfl
  | @andBack name ordinary =>
      have text : name ++ "/.." = name ++ "/" ++ ".." := by rw [String.append_assoc]; rfl
      rw [text, walk_append, walk_ordinary ordinary]
      exact List.dropLast_concat

theorem walk_slash (directory : Path) (front : String)
    : walk directory (front ++ "/") = walk directory front := by
  rw [← String.append_empty (s := front ++ "/"), walk_append]
  rfl

/-- What is inserted into a spelling does not change where it leads. -/
theorem walk_respelled {spelling other : String} (respelled : Respelled spelling other)
    (directory : Path)
    : walk directory other = walk directory spelling := by
  cases respelled with
  | doubleSlash => rw [walk_append, walk_append, walk_slash]
  | trailingSlash => rw [walk_slash]
  | detourFirst returns => rw [walk_append, walk_detour returns]
  | detourBetween returns => rw [walk_append, walk_append, walk_append, walk_detour returns]
  | detourInGap returns =>
      rw [walk_append, walk_append, walk_append, walk_slash, walk_detour returns]
  | detourLast returns => rw [walk_append, walk_detour returns]
  | detourAfterSlash returns => rw [walk_append, walk_slash, walk_detour returns]

/-- A spelling is relative when it begins with another character than a slash. -/
theorem isRelative_iff (spelling : String)
    : IsRelative spelling ↔ ∃ c rest, spelling.toList = c :: rest ∧ c ≠ '/' := by
  constructor
  · rintro ⟨nonempty, notAbsolute⟩
    cases found : spelling.toList with
    | nil => exact absurd (String.toList_eq_nil_iff.mp found) nonempty
    | cons c rest =>
        refine ⟨c, rest, rfl, ?_⟩
        rintro rfl
        simp [isAbsolute, found] at notAbsolute
  · rintro ⟨c, rest, found, notSlash⟩
    refine ⟨?_, by simp [isAbsolute, found, notSlash]⟩
    rintro rfl
    cases found

theorem IsRelative.append {front : String} (relative : IsRelative front) (back : String)
    : IsRelative (front ++ back) := by
  rw [isRelative_iff] at relative ⊢
  obtain ⟨c, rest, found, notSlash⟩ := relative
  exact ⟨c, rest ++ back.toList, by rw [String.toList_append, found, List.cons_append], notSlash⟩

theorem IsRelative.of_append {front back : String}
    (relative : IsRelative (front ++ "/" ++ back))
    : IsRelative front := by
  rw [isRelative_iff] at relative ⊢
  obtain ⟨c, rest, found, notSlash⟩ := relative
  rw [String.toList_append, String.toList_append] at found
  cases text : front.toList with
  | nil =>
      rw [text] at found
      exact absurd (List.cons.inj found).1.symm notSlash
  | cons first others =>
      rw [text] at found
      exact ⟨first, others, rfl, (List.cons.inj found).1 ▸ notSlash⟩

theorem IsOrdinary.isRelative {name : String} (ordinary : IsOrdinary name)
    : IsRelative name := by
  rw [isRelative_iff]
  cases text : name.toList with
  | nil => exact absurd (String.toList_eq_nil_iff.mp text) ordinary.nonempty
  | cons first others =>
      refine ⟨first, others, rfl, ?_⟩
      rintro rfl
      exact ordinary.slashFree (text ▸ List.mem_cons_self)

theorem Detour.isRelative {detour : String} (returns : Detour detour) : IsRelative detour := by
  cases returns with
  | stay => exact ⟨by decide, by decide⟩
  | andBack ordinary => exact ordinary.isRelative.append _

/-- What is inserted into a relative spelling leaves it a relative one; witness: nothing is inserted
in front of it but a detour.
-/
theorem IsRelative.respelled {spelling other : String} (relative : IsRelative spelling)
    (respelled : Respelled spelling other)
    : IsRelative other := by
  cases respelled with
  | doubleSlash => exact ((relative.of_append.append _).append _).append _
  | trailingSlash => exact relative.append _
  | detourFirst returns => exact (returns.isRelative.append _).append _
  | detourBetween => exact (((relative.of_append.append _).append _).append _).append _
  | detourInGap => exact ((relative.of_append.append _).append _).append _
  | detourLast => exact (relative.append _).append _
  | detourAfterSlash => exact relative.append _

/-- A relative spelling is resolved to the same path after any number of insertions, by induction on
them.
-/
theorem resolve_respelled {spelling other : String} (relative : IsRelative spelling)
    (respelled : Relation.ReflTransGen Respelled spelling other) (directory : Path)
    : resolve directory other = resolve directory spelling := by
  have kept : IsRelative other ∧ walk directory other = walk directory spelling := by
    induction respelled with
    | refl => exact ⟨relative, rfl⟩
    | tail _ last ih => exact ⟨ih.1.respelled last, (walk_respelled last directory).trans ih.2⟩
  rw [resolve_eq_walk kept.1, resolve_eq_walk relative, kept.2]

end Bytewise.Path
