import Mathlib.Data.List.Forall2
import Bytewise.Json.Basic

/-! Documents that say the same, whatever the order of the members of their objects, and encodings
that lose nothing: values whose documents are the same are the same value.
-/

namespace Bytewise.Json

/-- Documents are the same if they are made alike, up to the order in which objects have their
members: under each name both objects have the same value, or both have none.
-/
inductive Same : Json → Json → Prop
  | null : Same .null .null
  | bool (value : Bool) : Same (.bool value) (.bool value)
  | integer (value : Int) : Same (.integer value) (.integer value)
  | double (value : Binary64) : Same (.double value) (.double value)
  | string (value : String) : Same (.string value) (.string value)
  | array {first second : List Json} (each : List.Forall₂ Same first second)
    : Same (.array first) (.array second)
  | object {first second : List (String × Json)}
    (each : ∀ name, Option.Rel Same (first.lookup name) (second.lookup name))
    : Same (.object first) (.object second)

mutual

theorem Same.refl : ∀ document, Same document document
  | .null => .null
  | .bool value => .bool value
  | .integer value => .integer value
  | .double value => .double value
  | .string value => .string value
  | .array elements => .array (elements_same elements)
  | .object members => .object (members_same members)

theorem elements_same : ∀ elements, List.Forall₂ Same elements elements
  | [] => .nil
  | element :: rest => .cons (Same.refl element) (elements_same rest)

theorem members_same
    : ∀ (members : List (String × Json)) (name : String),
        Option.Rel Same (members.lookup name) (members.lookup name)
  | [], _ => .none
  | (other, value) :: rest, name => by
      rw [List.lookup_cons]
      split
      · exact .some (Same.refl value)
      · exact members_same rest name

end

section Faithful

variable {α : Type} {encode : α → Json}

/-- An encoding under which no two values have the same document. -/
def Faithful (encode : α → Json) : Prop :=
  ∀ ⦃first second⦄, Same (encode first) (encode second) → first = second

theorem faithful_bool : Faithful .bool := by
  intro first second same
  cases same
  rfl

theorem faithful_double : Faithful .double := by
  intro first second same
  cases same
  rfl

theorem faithful_string : Faithful .string := by
  intro first second same
  cases same
  rfl

theorem faithful_natural : Faithful natural := by
  intro first second same
  have integers : (first : Int) = second := by
    cases same
    rfl
  exact Int.ofNat_inj.mp integers

theorem Faithful.comp {β : Type} (faithful : Faithful encode) {view : β → α}
    (injective : Function.Injective view)
    : Faithful (fun value => encode (view value)) :=
  fun _ _ same => injective (faithful same)

/-- Arrays lose nothing when their elements do not. -/
theorem Faithful.list (faithful : Faithful encode) : Faithful (list encode) := by
  intro first second same
  cases same with
  | array each =>
      rw [List.forall₂_map_left_iff, List.forall₂_map_right_iff] at each
      have equal : List.Forall₂ (· = ·) first second := each.imp fun _ _ same => faithful same
      rwa [List.forall₂_eq_eq_eq] at equal

/-- An absent value is told from a present one whose document is not null. -/
theorem Faithful.orNull (faithful : Faithful encode) (present : ∀ value, encode value ≠ .null)
    : Faithful (orNull encode) := by
  have onlyNull {document : Json} (same : Same .null document ∨ Same document .null)
      : document = .null := by
    rcases same with same | same <;> cases same <;> rfl
  intro first second same
  cases first with
  | none =>
      cases second with
      | none => rfl
      | some second => exact absurd (onlyNull (.inl same)) (present second)
  | some first =>
      cases second with
      | none => exact absurd (onlyNull (.inr same)) (present first)
      | some second => exact congrArg some (faithful same)

-----------------------------------------------------------------------------------------
-- Members of objects
-----------------------------------------------------------------------------------------

@[simp]
theorem lookup_member? (name other : String) (encode : α → Json) (value : Option α)
    : (member? other encode value).lookup name
      = if name = other then value.map encode else none := by
  cases value with
  | none => simp [member?]
  | some value =>
      by_cases same : name = other
      · simp [member?, same]
      · simp [member?, List.lookup_cons, beq_false_of_ne same, same]

/-- A document is an object with an optional value under a name. -/
def HasOptional (document : Json) (name : String) (value : Option Json) : Prop :=
  ∃ members, document = .object members ∧ members.lookup name = value

/-- Objects that are the same have the same value under each name, or both none. -/
theorem Same.optional {first second : Json} {name : String} {value other : Option Json}
    (same : Same first second) (holds : first.HasOptional name value)
    (otherHolds : second.HasOptional name other)
    : Option.Rel Same value other := by
  obtain ⟨members, rfl, rfl⟩ := holds
  obtain ⟨otherMembers, rfl, rfl⟩ := otherHolds
  cases same with
  | object each => exact each name

variable {Record : Type} {document : Record → Json} {first second : Record}

/-- Records of the same document have the same optional value in a field that their objects have a
member for.
-/
theorem Faithful.optional (faithful : Faithful encode)
    (same : Same (document first) (document second)) (name : String) (field : Record → Option α)
    (holds : ∀ record, (document record).HasOptional name ((field record).map encode))
    : field first = field second := by
  have under := same.optional (holds first) (holds second)
  generalize field first = value at under
  generalize field second = other at under
  cases value with
  | none =>
      cases other with
      | none => rfl
      | some other => cases under
  | some value =>
      cases other with
      | none => cases under
      | some other =>
          cases under with
          | some same => exact congrArg some (faithful same)

/-- Records of the same document have the same value in a field that their objects have a member
for.
-/
theorem Faithful.field (faithful : Faithful encode)
    (same : Same (document first) (document second)) (name : String) (field : Record → α)
    (holds : ∀ record, (document record).HasOptional name (some (encode (field record))))
    : field first = field second :=
  Option.some.inj (faithful.optional same name (fun record => some (field record)) holds)

end Faithful

end Bytewise.Json
