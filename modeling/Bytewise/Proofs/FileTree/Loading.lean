import Bytewise.FileTree
import Bytewise.Proofs.Path.Spelling

/-! Loading of files. It gives the content of an admissible file, or tells whether nothing is there
or what is there is not admissible; how the path is spelled makes no difference.
-/

namespace Bytewise

/-- What a tree has at a path below it. -/
inductive Node.Holds : Node → Path → Node → Prop
  | here {node} : Holds node [] node
  | inside {entries name entry rest target} (found : entries.lookup name = some entry)
    (within : Holds entry rest target)
    : Holds (.directory entries) (name :: rest) target

/-- The last element of a path, and nothing for the root. -/
inductive Path.EndsIn : Path → String → Prop
  | root : EndsIn [] ""
  | name (front : Path) (name : String) : EndsIn (front ++ [name]) name

/-- Something is there but it is not admissible. -/
inductive LoadError.IsRefusal : LoadError → Prop
  | notRegular (path) : IsRefusal (.notRegular path)
  | tooLarge (size limit) : IsRefusal (.tooLarge size limit)

/-- What comes of loading from a path, by what the tree has there. -/
inductive LoadsTo (root : Node) (limit : Int) (path : Path)
    : Except LoadError NamedBuffer → Prop
  | missing (absent : ∀ node, ¬ root.Holds path node)
    : LoadsTo root limit path (.error (.notFound path))
  | directory {entries} (found : root.Holds path (.directory entries))
    : LoadsTo root limit path (.error (.notRegular path))
  | large {content} (found : root.Holds path (.file content)) (exceeds : limit < content.size)
    : LoadsTo root limit path (.error (.tooLarge content.size limit))
  | admissible {name content} (found : root.Holds path (.file content))
    (fits : content.size ≤ limit) (named : path.EndsIn name)
    : LoadsTo root limit path (.ok ⟨name, content⟩)

/-- A path has one name, by cases on its end. -/
theorem Path.endsIn_iff (path : Path) (name : String) : path.EndsIn name ↔ name = path.name := by
  constructor
  · rintro (_ | ⟨front⟩)
    · rfl
    · simp [Path.name]
  · rintro rfl
    rcases List.eq_nil_or_concat path with rfl | ⟨front, last, rfl⟩
    · exact .root
    · simpa [Path.name] using EndsIn.name front last

theorem Path.EndsIn.unique {path : Path} {first second : String} (ends : path.EndsIn first)
    (otherEnds : path.EndsIn second)
    : first = second := by
  rw [endsIn_iff] at ends otherEnds
  exact ends.trans otherEnds.symm

-----------------------------------------------------------------------------------------
-- What a tree has at a path
-----------------------------------------------------------------------------------------

/-- A lookup finds what the tree has at a path, by induction on the path. -/
theorem Node.holds_iff (root : Node) (path : Path) (target : Node)
    : root.Holds path target ↔ root.find? path = some target := by
  induction path generalizing root with
  | nil =>
      rw [find?, Option.some_inj]
      constructor
      · rintro ⟨⟩
        rfl
      · rintro rfl
        exact .here
  | cons name rest ih =>
      cases root with
      | file content =>
          constructor
          · rintro ⟨⟩
          · rintro ⟨⟩
      | directory entries =>
          rw [find?, Option.bind_eq_some_iff]
          constructor
          · rintro (_ | ⟨found, within⟩)
            exact ⟨_, found, (ih _).mp within⟩
          · rintro ⟨entry, found, within⟩
            exact .inside found ((ih _).mpr within)

theorem Node.Holds.unique {root first second : Node} {path : Path}
    (held : root.Holds path first) (otherHeld : root.Holds path second)
    : first = second := by
  rw [holds_iff] at held otherHeld
  exact Option.some.inj (held.symm.trans otherHeld)

-----------------------------------------------------------------------------------------
-- What comes of loading
-----------------------------------------------------------------------------------------

/-- Loading from a path always comes to one of the four ends. -/
theorem FileTree.loadsTo_loadAt (tree : FileTree) (limit : Int) (path : Path)
    : LoadsTo tree.root limit path (tree.loadAt limit path) := by
  rw [loadAt, contentAt]
  cases found : tree.root.find? path with
  | none =>
      refine .missing ?_
      intro node held
      rw [Node.holds_iff, found] at held
      cases held
  | some node =>
      have held := (Node.holds_iff _ _ _).mpr found
      cases node with
      | directory entries => exact .directory held
      | file content =>
          dsimp only
          split
          case isTrue exceeds => exact .large held exceeds
          case isFalse fits =>
              exact .admissible held (Int.not_lt.mp fits) ((Path.endsIn_iff ..).mpr rfl)

variable {root : Node} {limit : Int} {path : Path} {outcome : Except LoadError NamedBuffer}

theorem LoadsTo.notFound_iff (loads : LoadsTo root limit path outcome)
    : (∃ reported, outcome = .error (.notFound reported)) ↔ ¬ ∃ node, root.Holds path node := by
  cases loads with
  | missing absent => exact ⟨fun _ => not_exists.mpr absent, fun _ => ⟨_, rfl⟩⟩
  | directory found | large found _ | admissible found _ _ =>
      refine ⟨?_, fun absent => absurd ⟨_, found⟩ absent⟩
      rintro ⟨_, ⟨⟩⟩

theorem LoadsTo.refusal_iff (loads : LoadsTo root limit path outcome)
    : (∃ reason, outcome = .error reason ∧ reason.IsRefusal)
      ↔ (∃ entries, root.Holds path (.directory entries))
        ∨ ∃ content, root.Holds path (.file content) ∧ limit < content.size := by
  cases loads with
  | missing absent =>
      constructor
      · rintro ⟨_, ⟨⟩, ⟨⟩⟩
      · rintro (⟨_, held⟩ | ⟨_, held, _⟩)
        · exact absurd held (absent _)
        · exact absurd held (absent _)
  | directory found => exact ⟨fun _ => .inl ⟨_, found⟩, fun _ => ⟨_, rfl, .notRegular path⟩⟩
  | large found exceeds =>
      exact ⟨fun _ => .inr ⟨_, found, exceeds⟩, fun _ => ⟨_, rfl, .tooLarge _ limit⟩⟩
  | admissible found fits _ =>
      constructor
      · rintro ⟨_, ⟨⟩, _⟩
      · rintro (⟨_, held⟩ | ⟨_, held, exceeds⟩)
        · cases found.unique held
        · cases found.unique held
          exact absurd exceeds (Int.not_lt.mpr fits)

theorem LoadsTo.eq_ok_iff (loads : LoadsTo root limit path outcome) (file : NamedBuffer)
    : outcome = .ok file
      ↔ root.Holds path (.file file.content)
        ∧ file.content.size ≤ limit
        ∧ path.EndsIn file.name := by
  cases loads with
  | missing absent =>
      refine ⟨?_, fun ⟨held, _⟩ => absurd held (absent _)⟩
      rintro ⟨⟩
  | directory found =>
      constructor
      · rintro ⟨⟩
      · rintro ⟨held, _⟩
        cases found.unique held
  | large found exceeds =>
      constructor
      · rintro ⟨⟩
      · rintro ⟨held, fits, _⟩
        cases found.unique held
        exact absurd exceeds (Int.not_lt.mpr fits)
  | admissible found fits named =>
      constructor
      · rintro ⟨⟩
        exact ⟨found, fits, named⟩
      · rintro ⟨held, _, otherNamed⟩
        cases found.unique held
        rw [named.unique otherNamed]

namespace FileTree

/-- Loading finds nothing, refuses what is there or gives it, by what the tree has at a path. -/
structure LoadsFrom (tree : FileTree) (limit : Int) (spelling : String) (path : Path)
    : Prop where
  missing
    : (∃ reported, tree.load limit spelling = .error (.notFound reported))
      ↔ ¬ ∃ node, tree.root.Holds path node
  refused
    : (∃ reason, tree.load limit spelling = .error reason ∧ reason.IsRefusal)
      ↔ (∃ entries, tree.root.Holds path (.directory entries))
        ∨ ∃ content, tree.root.Holds path (.file content) ∧ limit < content.size
  loaded (file : NamedBuffer)
    : tree.load limit spelling = .ok file
      ↔ tree.root.Holds path (.file file.content)
        ∧ file.content.size ≤ limit
        ∧ path.EndsIn file.name

/-- A relative spelling leads to one path, and what the tree has there alone decides what comes of
loading. Detours, doubled slashes and a slash behind the end make no difference; witness: the path
that the spelling is resolved to stays the same.
-/
theorem load_exact (tree : FileTree) (limit : Int) {spelling : String}
    (relative : Path.IsRelative spelling)
    : (∀ path,
        Path.Leads tree.workingDirectory spelling path ↔ path = tree.resolve spelling)
      ∧ tree.LoadsFrom limit spelling (tree.resolve spelling)
      ∧ ∀ other,
          Relation.ReflTransGen Path.Respelled spelling other
          → tree.load limit other = tree.load limit spelling := by
  have loads := tree.loadsTo_loadAt limit (tree.resolve spelling)
  refine ⟨Path.leads_iff relative tree.workingDirectory, ?_, ?_⟩
  · exact ⟨loads.notFound_iff, loads.refusal_iff, loads.eq_ok_iff⟩
  · intro other respelled
    have resolved : tree.resolve other = tree.resolve spelling :=
      Path.resolve_respelled relative respelled tree.workingDirectory
    rw [load, load, resolved]

/-- A directory with a file of two bytes. -/
def oneFile : FileTree where
  workingDirectory := ["home"]
  root := .directory [("home", .directory [("f.tar.gz", .file #[1, 2])])]

/-- A file of exactly the limit is loaded under its whole name, also past a name that is not there.
-/
theorem load_exact_past_missing
    : Path.IsRelative "f.tar.gz"
      ∧ Relation.ReflTransGen Path.Respelled "f.tar.gz" "x/../f.tar.gz/"
      ∧ oneFile.load 2 "x/../f.tar.gz/" = .ok ⟨"f.tar.gz", #[1, 2]⟩ := by
  have relative : Path.IsRelative "f.tar.gz" := ⟨by decide, by decide⟩
  have ordinary : Path.IsOrdinary "x" := ⟨by decide, by decide, by decide, by decide⟩
  have respelled : Relation.ReflTransGen Path.Respelled "f.tar.gz" "x/../f.tar.gz/" :=
    (Relation.ReflTransGen.single (.detourFirst (.andBack ordinary) "f.tar.gz")).tail
      (.trailingSlash "x/../f.tar.gz")
  obtain ⟨-, loads, unchanged⟩ := load_exact oneFile 2 relative
  have loaded : oneFile.load 2 "f.tar.gz" = .ok ⟨"f.tar.gz", #[1, 2]⟩ :=
    (loads.loaded _).mpr
      ⟨.inside rfl (.inside rfl .here), by decide, .name ["home"] "f.tar.gz"⟩
  exact ⟨relative, respelled, (unchanged _ respelled).trans loaded⟩

end FileTree

end Bytewise
