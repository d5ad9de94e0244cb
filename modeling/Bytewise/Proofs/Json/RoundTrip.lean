import Bytewise.Proofs.Json.Numbers

/-! A written document is in ASCII, and it is read back as itself. What is written for a part of it
is read as that part whatever stands behind it, as long as no number goes on there; the document
follows by induction.
-/

namespace Bytewise.Json

open Reader

variable {α : Type}

/-- A document with numbers of the format only, and with one member for each name of an object. -/
inductive WellFormed : Json → Prop where
  | null : WellFormed .null
  | bool (value : Bool) : WellFormed (.bool value)
  | integer (value : Int) : WellFormed (.integer value)
  | double {value : Binary64} (normal : value.IsNormal) : WellFormed (.double value)
  | string (value : String) : WellFormed (.string value)
  | array {elements : List Json} (each : ∀ element ∈ elements, WellFormed element)
      : WellFormed (.array elements)
  | object {members : List (String × Json)} (distinct : (members.map Prod.fst).Nodup)
      (each : ∀ member ∈ members, WellFormed member.2)
      : WellFormed (.object members)

/-- Behind blanks, a text begins with something else than a closing bracket. -/
def BeginsItem (text : List Char) : Prop :=
  ∃ c others, skipBlanks text = c :: others ∧ c ≠ ']' ∧ c ≠ '\x7d'

/-- A text that is in ASCII and is read as an item, whatever follows that does not continue a
number.
-/
structure Writes (read? : Nat → Reader α) (text : List Char) (item : α) : Prop where
  ascii : IsAscii text
  begins (rest : List Char) : BeginsItem (text ++ rest)
  reads (fuel : Nat) {rest : List Char} (enough : text.length ≤ fuel) (ends : EndsNumber rest)
    : read? fuel (text ++ rest) = some (item, rest)

/-- A text that is read as the items behind the first one, up to any closing bracket. -/
structure WritesMore (read? : Nat → Reader α) (text : List Char) (items : List α) : Prop where
  ascii : IsAscii text
  ends {rest : List Char} (ends : EndsNumber rest) : EndsNumber (text ++ rest)
  reads (fuel steps : Nat) {close : Char} {closing rest : List Char}
    (enough : text.length ≤ fuel) (enoughSteps : text.length < steps) (notComma : close ≠ ',')
    (closes : skipBlanks closing = close :: rest) (ends : EndsNumber closing)
    : moreItems? (read? fuel) close steps (text ++ closing) = some (items, rest)

-----------------------------------------------------------------------------------------
-- Values without parts
-----------------------------------------------------------------------------------------

/-- A text of a value has to be read with some fuel only, since it is not empty. -/
theorem Writes.of_succ {text : List Char} {value : Json} (ascii : IsAscii text)
    (begins : ∀ rest, BeginsItem (text ++ rest)) (nonempty : text ≠ [])
    (reads
      : ∀ fuel rest,
          text.length ≤ fuel + 1
          → EndsNumber rest
          → value? (fuel + 1) (text ++ rest) = some (value, rest))
    : Writes value? text value where
  ascii := ascii
  begins := begins
  reads := by
    intro fuel rest enough ends
    cases fuel with
    | zero => exact absurd (List.length_eq_zero_iff.mp (Nat.le_zero.mp enough)) nonempty
    | succ fuel => exact reads fuel rest enough ends

theorem writes_null : Writes value? ['n', 'u', 'l', 'l'] .null :=
  .of_succ (by decide) (fun _ => ⟨'n', _, rfl, by decide⟩) (by decide) (fun _ _ _ _ => rfl)

theorem writes_true : Writes value? ['t', 'r', 'u', 'e'] (.bool true) :=
  .of_succ (by decide) (fun _ => ⟨'t', _, rfl, by decide⟩) (by decide) (fun _ _ _ _ => rfl)

theorem writes_false : Writes value? ['f', 'a', 'l', 's', 'e'] (.bool false) :=
  .of_succ (by decide) (fun _ => ⟨'f', _, rfl, by decide⟩) (by decide) (fun _ _ _ _ => rfl)

theorem writes_emptyArray : Writes value? ['[', ']'] (.array []) :=
  .of_succ (by decide) (fun _ => ⟨'[', _, rfl, by decide⟩) (by decide) (fun _ _ _ _ => rfl)

theorem writes_emptyObject : Writes value? ['\x7b', '\x7d'] (.object []) :=
  .of_succ (by decide) (fun _ => ⟨'\x7b', _, rfl, by decide⟩) (by decide) (fun _ _ _ _ => rfl)

theorem writes_string (value : String)
    : Writes value? (stringText value).toList (.string value) := by
  have ascii := stringText_isAscii value
  rw [toList_stringText] at ascii ⊢
  refine .of_succ ascii (fun _ => ⟨'"', _, rfl, by decide⟩) (List.cons_ne_nil _ _) ?_
  intro fuel rest _ _
  rw [List.cons_append, List.append_assoc, List.singleton_append]
  change (string? _).map _ = _
  rw [string?_append]
  rfl

/-- A number begins as no other value does, and as no bracket does. -/
theorem number_begins {first : Char} (start : first.isDigit ∨ first = '-')
    : ¬ isBlank first
      ∧ first ∉ ['"', '[', '\x7b', 'n', 't', 'f', ']', '\x7d'] := by
  rcases start with digit | rfl
  · have ne (other : Char) (noDigit : ¬ other.isDigit) : first ≠ other := by
      rintro rfl
      exact noDigit digit
    constructor
    · simp [isBlank, ne]
    · simp [ne]
  · decide

theorem Spells.writes {text : List Char} {literal : Literal} (spells : Spells text literal)
    : Writes value? text literal.toJson := by
  obtain ⟨first, others, text_eq, start⟩ := spells.head
  obtain ⟨notBlank, notOther⟩ := number_begins start
  have skipped (rest : List Char) : skipBlanks (text ++ rest) = first :: (others ++ rest) := by
    rw [text_eq]
    exact List.dropWhile_cons_of_neg notBlank
  refine .of_succ spells.isAscii ?_ (by simp [text_eq]) ?_
  · intro rest
    refine ⟨first, others ++ rest, skipped rest, ?_, ?_⟩
    · rintro rfl
      exact notOther (by decide)
    · rintro rfl
      exact notOther (by decide)
  · intro fuel rest _ ends
    have read := spells.reads ends
    rw [text_eq, List.cons_append] at read
    rw [value?, skipped]
    split
    case h_8 => simp [read]
    case h_1 found => cases found
    all_goals
      rename_i found
      cases found
      exact absurd notOther (by decide)

-----------------------------------------------------------------------------------------
-- Items
-----------------------------------------------------------------------------------------

theorem skipBlanks_append {blanks : List Char} (blank : ∀ c ∈ blanks, isBlank c) (text : List Char)
    : skipBlanks (blanks ++ text) = skipBlanks text :=
  List.dropWhile_append_of_pos blank

theorem WritesMore.nil (read? : Nat → Reader α) : WritesMore read? [] [] where
  ascii := nofun
  ends := id
  reads := by
    rintro fuel (_ | steps) close closing rest enough enoughSteps notComma closes ends
    · exact absurd enoughSteps (by decide)
    · rw [List.nil_append, moreItems?, closes]
      exact if_pos rfl

theorem WritesMore.cons {read? : Nat → Reader α} {text more : List Char} {item : α}
    {items : List α} (writes : Writes read? text item) (writesMore : WritesMore read? more items)
    : WritesMore read? (',' :: (text ++ more)) (item :: items) where
  ascii := (writes.ascii.append writesMore.ascii).cons (by decide)
  ends := fun _ => .cons (by decide) _
  reads := by
    rintro fuel (_ | steps) close closing rest enough enoughSteps notComma closes ends
    · exact absurd enoughSteps (Nat.not_lt_zero _)
    · rw [List.length_cons, List.length_append] at enough enoughSteps
      have first := writes.reads fuel (by omega) (writesMore.ends ends)
      have others := writesMore.reads fuel steps (by omega) (by omega)
        notComma closes ends
      rw [List.cons_append, List.append_assoc, moreItems?]
      change (if ',' = close then _ else _) = _
      rw [if_neg notComma.symm]
      simp [first, others]

theorem items?_append {read? : Nat → Reader α} {text more : List Char} {item : α}
    {items : List α} (writes : Writes read? text item) (writesMore : WritesMore read? more items)
    (fuel steps : Nat) {close : Char} {closing rest : List Char}
    (enough : text.length + more.length ≤ fuel) (enoughSteps : more.length < steps)
    (bracket : close = ']' ∨ close = '\x7d')
    (closes : skipBlanks closing = close :: rest) (ends : EndsNumber closing)
    : items? (read? fuel) close steps (text ++ (more ++ closing)) = some (item :: items, rest) := by
  have first := writes.reads fuel (by omega) (writesMore.ends ends)
  have others := writesMore.reads fuel steps (by omega) enoughSteps
    (by rcases bracket with rfl | rfl <;> decide) closes ends
  obtain ⟨c, behind, begins, notArray, notObject⟩ := writes.begins (more ++ closing)
  have notClose : c ≠ close := by
    rintro rfl
    exact bracket.elim notArray notObject
  rw [items?, begins]
  simp [notClose, first, others]

-----------------------------------------------------------------------------------------
-- Documents
-----------------------------------------------------------------------------------------

/-- What is appended for a value at a depth of nesting, and that it is read as the value. -/
structure Written (depth : Nat) (document : Json) (text : String) : Prop where
  appended (before : String) : appendValue before depth document = before ++ text
  writes : Writes value? text.toList document

/-- A reader that passes over blanks. -/
def SkipsBlanks (read? : Nat → Reader α) : Prop :=
  ∀ fuel blanks text, (∀ c ∈ blanks, isBlank c) → read? fuel (blanks ++ text) = read? fuel text

theorem value?_skipsBlanks : SkipsBlanks value? := by
  rintro (_ | fuel) blanks text blank
  · rfl
  · rw [value?, skipBlanks_append blank, value?]

/-- A member is read with the fuel of its value. -/
def memberWithin? (fuel : Nat) : Reader (String × Json) :=
  Reader.member? (value? fuel)

theorem memberWithin?_skipsBlanks : SkipsBlanks memberWithin? := by
  intro fuel blanks text blank
  rw [memberWithin?, Reader.member?, skipBlanks_append blank, Reader.member?]

theorem toList_lineBreak (depth : Nat)
    : (lineBreak depth).toList = '\n' :: List.replicate (2 * depth) ' ' :=
  String.toList_ofList

theorem isBlank_of_mem_lineBreak (depth : Nat) : ∀ c ∈ (lineBreak depth).toList, isBlank c := by
  intro c mem
  rw [toList_lineBreak, List.mem_cons, List.mem_replicate] at mem
  rcases mem with rfl | ⟨-, rfl⟩
  · rfl
  · rfl

theorem lineBreak_isAscii (depth : Nat) : IsAscii (lineBreak depth).toList := by
  intro c mem
  rw [toList_lineBreak, List.mem_cons, List.mem_replicate] at mem
  rcases mem with rfl | ⟨-, rfl⟩
  · decide
  · decide

theorem skipBlanks_lineBreak (depth : Nat) (text : List Char)
    : skipBlanks ((lineBreak depth).toList ++ text) = skipBlanks text :=
  skipBlanks_append (isBlank_of_mem_lineBreak depth) text

theorem endsNumber_lineBreak (depth : Nat) (text : List Char)
    : EndsNumber ((lineBreak depth).toList ++ text) := by
  rw [toList_lineBreak]
  exact .cons (by decide) _

/-- Items may begin on a new line. -/
theorem Writes.lineBreak {read? : Nat → Reader α} (skips : SkipsBlanks read?) {text : List Char}
    {item : α} (writes : Writes read? text item) (depth : Nat)
    : Writes read? ((lineBreak depth).toList ++ text) item where
  ascii := (lineBreak_isAscii depth).append writes.ascii
  begins := by
    intro rest
    rw [List.append_assoc, BeginsItem, skipBlanks_lineBreak]
    exact writes.begins rest
  reads := by
    intro fuel rest enough ends
    rw [List.length_append] at enough
    rw [List.append_assoc, skips fuel _ _ (isBlank_of_mem_lineBreak depth)]
    exact writes.reads fuel (by omega) ends

/-- A name, a colon and a value make a member. -/
theorem Writes.member (name : String) {text : List Char} {value : Json}
    (writes : Writes value? text value)
    : Writes memberWithin? ((stringText name).toList ++ (':' :: ' ' :: text)) (name, value) where
  ascii := (stringText_isAscii name).append ((writes.ascii.cons (by decide)).cons (by decide))
  begins := by
    intro rest
    rw [toList_stringText]
    exact ⟨'"', _, rfl, by decide, by decide⟩
  reads := by
    intro fuel rest enough ends
    have length : text.length ≤ fuel := by
      simp only [List.length_append, List.length_cons] at enough
      omega
    have read : value? fuel (' ' :: (text ++ rest)) = some (value, rest) :=
      (value?_skipsBlanks fuel [' '] (text ++ rest) (List.forall_mem_singleton.mpr rfl)).trans
        (writes.reads fuel length ends)
    rw [memberWithin?, toList_stringText, List.cons_append, List.append_assoc, List.cons_append,
      List.append_assoc]
    change (string? _).bind _ = _
    rw [List.singleton_append, List.cons_append, string?_append]
    change (value? fuel (' ' :: (text ++ rest))).bind _ = _
    rw [read]
    rfl

/-- The elements behind the first one, by induction on them. -/
theorem exists_appendElements (depth : Nat) {elements : List Json}
    (each : ∀ element ∈ elements, ∃ text, Written depth element text)
    : ∃ text : String,
        (∀ before, appendElements before depth elements = before ++ text)
        ∧ WritesMore value? text.toList elements := by
  induction elements with
  | nil => exact ⟨"", fun before => by rw [appendElements, String.append_empty], .nil value?⟩
  | cons element elements ih =>
      obtain ⟨text, written⟩ := each element List.mem_cons_self
      obtain ⟨more, appended, writesMore⟩ :=
        ih (fun other mem => each other (List.mem_cons_of_mem _ mem))
      refine ⟨"," ++ lineBreak depth ++ text ++ more, ?_, ?_⟩
      · intro before
        rw [appendElements, written.appended, appended]
        simp only [String.append_assoc]
      · have writes := written.writes.lineBreak value?_skipsBlanks depth
        have list : (("," ++ lineBreak depth ++ text ++ more) : String).toList
            = ',' :: ((lineBreak depth).toList ++ text.toList ++ more.toList) := by
          simp only [String.toList_append]
          rfl
        rw [list]
        exact .cons writes writesMore

/-- The members behind the first one, by induction on them. -/
theorem exists_appendMembers (depth : Nat) {members : List (String × Json)}
    (each : ∀ member ∈ members, ∃ text, Written depth member.2 text)
    : ∃ text : String,
        (∀ before, appendMembers before depth members = before ++ text)
        ∧ WritesMore memberWithin? text.toList members := by
  induction members with
  | nil => exact ⟨"", fun before => by rw [appendMembers, String.append_empty], .nil memberWithin?⟩
  | cons member members ih =>
      obtain ⟨name, value⟩ := member
      obtain ⟨text, written⟩ := each (name, value) List.mem_cons_self
      obtain ⟨more, appended, writesMore⟩ :=
        ih (fun other mem => each other (List.mem_cons_of_mem _ mem))
      refine ⟨"," ++ lineBreak depth ++ (stringText name ++ ": " ++ text) ++ more, ?_, ?_⟩
      · intro before
        rw [appendMembers, written.appended, appended]
        simp only [String.append_assoc]
      · have writes := (written.writes.member name).lineBreak memberWithin?_skipsBlanks depth
        have list : ("," ++ lineBreak depth ++ (stringText name ++ ": " ++ text) ++ more).toList
            = ',' :: ((lineBreak depth).toList
                ++ ((stringText name).toList ++ ':' :: ' ' :: text.toList) ++ more.toList) := by
          simp only [String.toList_append]
          simp
        rw [list]
        exact .cons writes writesMore

/-- Items between brackets make an array or an object. -/
theorem Writes.listing {read? : Nat → Reader α} {opening close : Char} {toJson : List α → Json}
    (bracket : close = ']' ∨ close = '\x7d')
    (notBlank : ¬ isBlank opening ∧ opening ≠ ']' ∧ opening ≠ '\x7d')
    (ascii : opening.toNat < 0x80)
    (opens : ∀ fuel rest, value? (fuel + 1) (opening :: rest)
      = (items? (read? fuel) close fuel rest).map (fun (items, rest) => (toJson items, rest)))
    {text more : List Char} {first : α} {others : List α} (writes : Writes read? text first)
    (writesMore : WritesMore read? more others) (depth : Nat)
    : Writes value? (opening :: (text ++ (more ++ ((Json.lineBreak depth).toList ++ [close]))))
        (toJson (first :: others)) := by
  have closeFacts : close.toNat < 0x80 ∧ ¬ isBlank close := by
    rcases bracket with rfl | rfl
    · decide
    · decide
  refine .of_succ ?_ ?_ (List.cons_ne_nil _ _) ?_
  · have closing : IsAscii [close] := List.forall_mem_singleton.mpr closeFacts.1
    exact (writes.ascii.append
      (writesMore.ascii.append ((lineBreak_isAscii depth).append closing))).cons ascii
  · intro rest
    exact ⟨opening, _, List.dropWhile_cons_of_neg notBlank.1, notBlank.2⟩
  · intro fuel rest enough _
    simp only [List.length_cons, List.length_append, toList_lineBreak] at enough
    have closes : skipBlanks ((Json.lineBreak depth).toList ++ close :: rest) = close :: rest := by
      rw [skipBlanks_lineBreak]
      exact List.dropWhile_cons_of_neg closeFacts.2
    have items := items?_append writes writesMore fuel fuel (by omega)
      (by omega) bracket closes (endsNumber_lineBreak depth _)
    rw [List.cons_append, opens]
    simp only [List.append_assoc, List.singleton_append, items]
    rfl

theorem Writes.array {text more : List Char} {first : Json} {others : List Json}
    (writes : Writes value? text first) (writesMore : WritesMore value? more others) (depth : Nat)
    : Writes value? ('[' :: (text ++ (more ++ ((Json.lineBreak depth).toList ++ [']']))))
        (.array (first :: others)) :=
  .listing (Or.inl rfl) (by decide) (by decide) (fun _ _ => rfl) writes writesMore depth

theorem Writes.object {text more : List Char} {first : String × Json}
    {others : List (String × Json)} (writes : Writes memberWithin? text first)
    (writesMore : WritesMore memberWithin? more others) (depth : Nat)
    : Writes value?
        ('\x7b' :: (text ++ (more ++ ((Json.lineBreak depth).toList ++ ['\x7d']))))
        (.object (first :: others)) :=
  .listing (Or.inr rfl) (by decide) (by decide) (fun _ _ => rfl) writes writesMore depth

/-- Every well-formed document is written so, by induction on what it is made of. -/
theorem exists_written {document : Json} (wellFormed : WellFormed document) (depth : Nat)
    : ∃ text, Written depth document text := by
  induction wellFormed generalizing depth with
  | null => exact ⟨"null", fun before => by rw [appendValue], writes_null⟩
  | bool value =>
      cases value with
      | true => exact ⟨"true", fun before => by rw [appendValue], writes_true⟩
      | false => exact ⟨"false", fun before => by rw [appendValue], writes_false⟩
  | integer value =>
      obtain ⟨literal, spells, toJson⟩ := spells_integer value
      exact ⟨toString value, fun before => by rw [appendValue], toJson ▸ spells.writes⟩
  | double normal =>
      obtain ⟨literal, spells, toJson⟩ := spells_double normal
      exact ⟨_, fun before => by rw [appendValue], toJson ▸ spells.writes⟩
  | string value => exact ⟨stringText value, fun before => by rw [appendValue], writes_string value⟩
  | @array elements each ih =>
      cases elements with
      | nil =>
          exact ⟨"[]", fun before => by rw [appendValue], writes_emptyArray⟩
      | cons first others =>
          obtain ⟨text, written⟩ := ih first List.mem_cons_self (depth + 1)
          obtain ⟨more, appended, writesMore⟩ := exists_appendElements (depth + 1)
            (fun other mem => ih other (List.mem_cons_of_mem _ mem) (depth + 1))
          refine ⟨"[" ++ lineBreak (depth + 1) ++ text ++ more ++ lineBreak depth ++ "]", ?_, ?_⟩
          · intro before
            rw [appendValue, written.appended, appended]
            simp only [String.append_assoc]
          · have writes := written.writes.lineBreak value?_skipsBlanks (depth + 1)
            simpa using writes.array writesMore depth
  | @object members distinct each ih =>
      cases members with
      | nil =>
          exact ⟨"\x7b\x7d", fun before => by rw [appendValue], writes_emptyObject⟩
      | cons first others =>
          obtain ⟨name, value⟩ := first
          obtain ⟨text, written⟩ := ih (name, value) List.mem_cons_self (depth + 1)
          obtain ⟨more, appended, writesMore⟩ := exists_appendMembers (depth + 1)
            (fun other mem => ih other (List.mem_cons_of_mem _ mem) (depth + 1))
          refine ⟨"\x7b" ++ lineBreak (depth + 1) ++ stringText name ++ ": " ++ text ++ more
            ++ lineBreak depth ++ "\x7d", ?_, ?_⟩
          · intro before
            rw [appendValue, written.appended, appended]
            simp only [String.append_assoc]
          · have writes := (written.writes.member name).lineBreak memberWithin?_skipsBlanks
              (depth + 1)
            simpa using writes.object writesMore depth

/-- A well-formed document is written in ASCII, and the text is read as the document. -/
theorem parse_render {document : Json} (wellFormed : WellFormed document)
    : IsAscii document.render.toList ∧ parse document.render = some document := by
  obtain ⟨text, appended, writes⟩ := exists_written wellFormed 0
  have render : document.render = text := by
    rw [Json.render, appended, String.empty_append]
  rw [render]
  refine ⟨writes.ascii, ?_⟩
  have read := writes.reads text.length (Nat.le_of_eq String.length_toList) .nil
  rw [List.append_nil] at read
  rw [parse, read]
  rfl

end Bytewise.Json
