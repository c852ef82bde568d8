import Ecmascript.Proofs.Record.Digits
import Ecmascript.Record.Printer

/-!
# Records can be read back

The compact form of a record determines the record, as long as its names and labels consist of
letters, digits and low lines. A name ends where such characters do, and what follows tells a word
from a tag and from the name of a structure. Quoted text ends at the first quote that is not behind
a backslash, and no two characters are written in ways that begin alike.
-/

set_option autoImplicit false

namespace Ecmascript.Record

/-! ## Names -/

/-- Characters of names, labels and numbers. -/
def isNameCharacter (c : Char) : Bool :=
  c.isAlphanum || c = '_'

/-- Whether a text is a name: it has characters, and all of them are characters of names. -/
def isName (name : Text) : Bool :=
  !name.isEmpty && name.all isNameCharacter

/-- All names and labels of a record are names. Quoted text may be any. -/
def Spelled : {sort : Record.Sort} → Record sort → Prop
  | _, .word name => isName name.toList = true
  | _, .quoted _ => True
  | _, .tagged name argument => isName name.toList = true ∧ argument.Spelled
  | _, .struct name fields => isName name.toList = true ∧ fields.Spelled
  | _, .list items => items.Spelled
  | _, .noItems => True
  | _, .item head rest => head.Spelled ∧ rest.Spelled
  | _, .noFields => True
  | _, .field label value rest => isName label.toList = true ∧ value.Spelled ∧ rest.Spelled

/-- A text does not go on with a character of names. -/
def Breaks (text : Text) : Prop :=
  ∀ c ∈ text.head?, isNameCharacter c = false

theorem isNameCharacter_of_isName {name : Text} (named : isName name = true) :
    ∀ c ∈ name, isNameCharacter c = true := by
  simp [isName] at named
  exact named.2

/-- A name begins with a character of names. -/
theorem append_ne_of_isName {name tail tail' : Text} {c : Char} (named : isName name = true)
    (other : isNameCharacter c = false) : name ++ tail ≠ c :: tail' := by
  intro same
  cases name with
  | nil => cases named
  | cons first rest =>
      obtain ⟨rfl, _⟩ := List.cons.inj same
      have inName := isNameCharacter_of_isName named first List.mem_cons_self
      exact absurd inName (by simp [other])

/-- A name ends where something else follows. -/
theorem append_inj_of_breaks {name name' tail tail' : Text}
    (names : ∀ c ∈ name, isNameCharacter c = true) (names' : ∀ c ∈ name', isNameCharacter c = true)
    (breaks : Breaks tail) (breaks' : Breaks tail') (same : name ++ tail = name' ++ tail') :
    name = name' ∧ tail = tail' := by
  induction name generalizing name' with
  | nil =>
      cases name' with
      | nil => exact ⟨rfl, same⟩
      | cons c rest =>
          obtain rfl : tail = c :: (rest ++ tail') := same
          simp [Breaks, names' c] at breaks
  | cons c rest ih =>
      cases name' with
      | nil =>
          obtain rfl : c :: (rest ++ tail) = tail' := same
          simp [Breaks, names c] at breaks'
      | cons c' rest' =>
          obtain ⟨rfl, rests⟩ := List.cons.inj same
          obtain ⟨rfl, follow⟩ := ih (fun c member => names c (List.mem_cons_of_mem _ member))
            (fun c member => names' c (List.mem_cons_of_mem _ member)) rests
          exact ⟨rfl, follow⟩

/-! ## Quoted text -/

/-- The characters that are written as a backslash and a letter. -/
def shortEscapes : List (Char × Char) :=
  [('\x00', '0'), ('\t', 't'), ('\r', 'r'), ('\n', 'n'), ('"', '"'), ('\\', '\\')]

/-- The ways in which characters are written between quotes. -/
inductive Escapes : Char → Text → Prop
  | short {c letter : Char} (listed : (c, letter) ∈ shortEscapes) : Escapes c ['\\', letter]
  | plain {c : Char} (quote : c ≠ '"') (backslash : c ≠ '\\') : Escapes c [c]
  | code (c : Char) :
      Escapes c ('\\' :: 'u' :: '\x7b' :: (Nat.toDigits 16 c.toNat ++ ['\x7d']))

theorem escapes_escapeCharacter (c : Char) : Escapes c (escapeCharacter c) := by
  unfold escapeCharacter
  split
  · exact .short (by simp [shortEscapes, *])
  split
  · exact .short (by simp [shortEscapes, *])
  split
  · exact .short (by simp [shortEscapes, *])
  split
  · exact .short (by simp [shortEscapes, *])
  split
  · exact .short (by simp [shortEscapes, *])
  split
  · exact .short (by simp [shortEscapes, *])
  split
  · exact .plain ‹_› ‹_›
  · exact .code c

theorem shortEscapes_inj {c c' letter : Char} (listed : (c, letter) ∈ shortEscapes)
    (listed' : (c', letter) ∈ shortEscapes) : c = c' := by
  have all : ∀ one ∈ shortEscapes, ∀ other ∈ shortEscapes, one.2 = other.2 → one.1 = other.1 := by
    decide
  exact all _ listed _ listed' rfl

theorem not_short_u {c : Char} : (c, 'u') ∉ shortEscapes := by
  simp [shortEscapes]

theorem isNameCharacter_digit {base n : Nat} (more : 1 < base) (small : base ≤ 16) :
    ∀ c ∈ Nat.toDigits base n, isNameCharacter c = true := by
  intro c member
  have digit := isAlphanum_of_mem_toDigits more small member
  simp [isNameCharacter, digit]

theorem breaks_closing {tail : Text} : Breaks (['\x7d'] ++ tail) := by
  simp [Breaks, isNameCharacter]

theorem toNat_inj {c c' : Char} (same : c.toNat = c'.toNat) : c = c' := by
  rw [← Char.ofNat_toNat c, ← Char.ofNat_toNat c', same]

/-- No two characters are written in ways that begin alike. -/
theorem Escapes.append_inj {c c' : Char} {text text' tail tail' : Text} (escapes : Escapes c text)
    (escapes' : Escapes c' text') (same : text ++ tail = text' ++ tail') :
    c = c' ∧ tail = tail' := by
  cases escapes with
  | short listed =>
      cases escapes' with
      | short listed' =>
          obtain ⟨_, same⟩ := List.cons.inj same
          obtain ⟨rfl, follow⟩ := List.cons.inj same
          exact ⟨shortEscapes_inj listed listed', follow⟩
      | plain _ backslash => exact absurd (List.cons.inj same).1.symm backslash
      | code =>
          obtain ⟨rfl, _⟩ := List.cons.inj (List.cons.inj same).2
          exact absurd listed not_short_u
  | plain _ backslash =>
      cases escapes' with
      | plain _ _ => exact List.cons.inj same
      | _ => exact absurd (List.cons.inj same).1 backslash
  | code =>
      cases escapes' with
      | short listed =>
          obtain ⟨rfl, _⟩ := List.cons.inj (List.cons.inj same).2
          exact absurd listed not_short_u
      | plain _ backslash => exact absurd (List.cons.inj same).1.symm backslash
      | code =>
          simp only [List.cons_append, List.append_assoc] at same
          have same := (List.cons.inj (List.cons.inj (List.cons.inj same).2).2).2
          obtain ⟨digits, follow⟩ := append_inj_of_breaks
            (isNameCharacter_digit (by decide) (by decide))
            (isNameCharacter_digit (by decide) (by decide)) breaks_closing breaks_closing same
          have number := (toDigits_inj (by decide) (by decide)).1 digits
          exact ⟨toNat_inj number, (List.cons.inj follow).2⟩

theorem escapeCharacter_ne_quote {c : Char} {tail tail' : Text} :
    escapeCharacter c ++ tail ≠ '"' :: tail' := by
  intro same
  have escapes := escapes_escapeCharacter c
  cases form : escapeCharacter c with
  | nil => rw [form] at escapes; cases escapes
  | cons first rest =>
      rw [form] at same escapes
      obtain ⟨rfl, _⟩ := List.cons.inj same
      cases escapes
      contradiction

/-- Quoted text ends at the first quote that is not escaped. -/
theorem writeQuoted_inj {text text' : String} {tail tail' : Text}
    (same : writeQuoted text tail = writeQuoted text' tail') : text = text' ∧ tail = tail' := by
  have chars : ∀ {chars chars' : Text},
      chars.flatMap escapeCharacter ++ '"' :: tail =
        chars'.flatMap escapeCharacter ++ '"' :: tail' → chars = chars' ∧ tail = tail' := by
    intro chars
    induction chars with
    | nil =>
        intro chars' same
        cases chars' with
        | nil => exact ⟨rfl, (List.cons.inj same).2⟩
        | cons c' rest' =>
            rw [List.flatMap_cons, List.append_assoc] at same
            exact absurd same.symm escapeCharacter_ne_quote
    | cons c rest ih =>
        intro chars' same
        rw [List.flatMap_cons, List.append_assoc] at same
        cases chars' with
        | nil => exact absurd same escapeCharacter_ne_quote
        | cons c' rest' =>
            rw [List.flatMap_cons, List.append_assoc] at same
            obtain ⟨rfl, rests⟩ :=
              (escapes_escapeCharacter c).append_inj (escapes_escapeCharacter c') same
            obtain ⟨rfl, follow⟩ := ih rests
            exact ⟨rfl, follow⟩
  obtain ⟨same, follow⟩ := chars (List.cons.inj same).2
  exact ⟨String.toList_inj.1 same, follow⟩

/-! ## Forms -/

/-- What may stand behind a record of a sort. -/
inductive Ends : Record.Sort → Text → Prop
  | text : Ends .value []
  | mark (tail : Text) {c : Char} (listed : c ∈ [',', ')', ']']) : Ends .value (c :: tail)
  | brace (tail : Text) : Ends .value (' ' :: '\x7d' :: tail)
  | items (tail : Text) : Ends .items (']' :: tail)
  | fields (tail : Text) : Ends .fields (' ' :: '\x7d' :: tail)

/-- The forms of values. -/
inductive Form where
  | word | quoted | tagged | struct | list

/-- The form of a value. -/
def form : Record .value → Form
  | .word _ => .word
  | .quoted _ => .quoted
  | .tagged _ _ => .tagged
  | .struct _ _ => .struct
  | .list _ => .list

/-- The form that a text shows behind the name. -/
def shownForm : Text → Form
  | '(' :: _ => .tagged
  | ' ' :: '\x7b' :: _ => .struct
  | '"' :: _ => .quoted
  | '[' :: _ => .list
  | _ => .word

/-- The name in front of a value. -/
def lead : Record .value → Text
  | .word name | .tagged name _ | .struct name _ => name.toList
  | .quoted _ | .list _ => []

/-- What is written behind the name of a value. -/
def follow : Record .value → Text → Text
  | .word _, tail => tail
  | .quoted text, tail => writeQuoted text tail
  | .tagged _ argument, tail => '(' :: argument.writeCompact (')' :: tail)
  | .struct _ fields, tail => ' ' :: '\x7b' :: ' ' :: fields.writeCompact (' ' :: '\x7d' :: tail)
  | .list items, tail => '[' :: items.writeCompact (']' :: tail)

variable {sort : Record.Sort} {record record' : Record .value} {tail tail' : Text}

theorem writeCompact_eq : record.writeCompact tail = record.lead ++ record.follow tail := by
  cases record <;> rfl

theorem isNameCharacter_lead (spelled : record.Spelled) :
    ∀ c ∈ record.lead, isNameCharacter c = true := by
  cases record with
  | word => exact isNameCharacter_of_isName spelled
  | tagged => exact isNameCharacter_of_isName spelled.1
  | struct => exact isNameCharacter_of_isName spelled.1
  | _ => nofun

theorem breaks_colon : Breaks (':' :: tail) := by
  simp [Breaks, isNameCharacter]

theorem Ends.breaks (ends : Ends .value tail) : Breaks tail := by
  cases ends with
  | text => nofun
  | mark _ listed =>
      simp only [List.mem_cons, List.not_mem_nil, or_false] at listed
      rcases listed with rfl | rfl | rfl <;> simp [Breaks, isNameCharacter]
  | brace => simp [Breaks, isNameCharacter]

theorem breaks_follow (ends : Ends .value tail) : Breaks (record.follow tail) := by
  cases record with
  | word => exact ends.breaks
  | _ => simp [Breaks, isNameCharacter, follow, writeQuoted]

theorem shownForm_follow (ends : Ends .value tail) :
    shownForm (record.follow tail) = record.form := by
  cases record with
  | word =>
      cases ends with
      | mark _ listed =>
          simp only [List.mem_cons, List.not_mem_nil, or_false] at listed
          rcases listed with rfl | rfl | rfl <;> rfl
      | _ => rfl
  | _ => rfl

/-- Values that are written alike have the same form and the same name. -/
theorem follow_inj (spelled : record.Spelled) (spelled' : record'.Spelled)
    (ends : Ends .value tail) (ends' : Ends .value tail')
    (same : record.writeCompact tail = record'.writeCompact tail') :
    record.form = record'.form ∧ record.lead = record'.lead ∧
      record.follow tail = record'.follow tail' := by
  rw [writeCompact_eq, writeCompact_eq] at same
  obtain ⟨lead, follow⟩ := append_inj_of_breaks (isNameCharacter_lead spelled)
    (isNameCharacter_lead spelled') (breaks_follow ends) (breaks_follow ends') same
  refine ⟨?_, lead, follow⟩
  rw [← shownForm_follow ends, ← shownForm_follow ends', follow]

/-- No value begins like the end of a list. -/
theorem writeCompact_ne_bracket (spelled : record.Spelled) :
    record.writeCompact tail ≠ ']' :: tail' := by
  have bracket : isNameCharacter ']' = false := by decide
  cases record with
  | word => exact append_ne_of_isName spelled bracket
  | tagged => exact append_ne_of_isName spelled.1 bracket
  | struct => exact append_ne_of_isName spelled.1 bracket
  | _ => simp [writeCompact, writeQuoted]

/-! ## Chains -/

/-- What is written behind an item or a field: a separator in front of the next one. -/
def resume (rest : Record sort) (tail : Text) : Text :=
  match rest with
  | .item _ _ | .field _ _ _ => ',' :: ' ' :: rest.writeCompact tail
  | _ => tail

theorem writeCompact_item {head : Record .value} {rest : Record .items} :
    (Record.item head rest).writeCompact tail = head.writeCompact (rest.resume tail) := by
  cases rest <;> rfl

theorem writeCompact_field {label : String} {value : Record .value} {rest : Record .fields} :
    (Record.field label value rest).writeCompact tail =
      label.toList ++ ':' :: ' ' :: value.writeCompact (rest.resume tail) := by
  cases rest <;> rfl

theorem ends_resume_items {rest : Record .items} (ends : Ends .items tail) :
    Ends .value (rest.resume tail) := by
  cases ends
  cases rest <;> exact .mark _ (by decide)

theorem ends_resume_fields {rest : Record .fields} (ends : Ends .fields tail) :
    Ends .value (rest.resume tail) := by
  cases ends
  cases rest with
  | noFields => exact .brace _
  | field => exact .mark _ (by decide)

theorem resume_items_inj {rest rest' : Record .items} (ends : Ends .items tail)
    (ends' : Ends .items tail') (same : rest.resume tail = rest'.resume tail') :
    rest.writeCompact tail = rest'.writeCompact tail' := by
  cases ends
  cases ends'
  cases rest <;> cases rest' <;> simp_all [resume, writeCompact]

theorem resume_fields_inj {rest rest' : Record .fields} (ends : Ends .fields tail)
    (ends' : Ends .fields tail') (same : rest.resume tail = rest'.resume tail') :
    rest.writeCompact tail = rest'.writeCompact tail' := by
  cases ends
  cases ends'
  cases rest <;> cases rest' <;> simp_all [resume, writeCompact]

/-- The text of a record determines the record, and where it ends. -/
theorem writeCompact_inj {record record' : Record sort} (spelled : record.Spelled)
    (spelled' : record'.Spelled) (ends : Ends sort tail) (ends' : Ends sort tail')
    (same : record.writeCompact tail = record'.writeCompact tail') :
    record = record' ∧ tail = tail' := by
  induction record generalizing tail tail' with
  | word name =>
      obtain ⟨form, lead, follow⟩ := follow_inj spelled spelled' ends ends' same
      cases record' with
      | word name' => exact ⟨congrArg Record.word (String.toList_inj.1 lead), follow⟩
      | _ => cases form
  | quoted text =>
      obtain ⟨form, lead, follow⟩ := follow_inj spelled spelled' ends ends' same
      cases record' with
      | quoted text' =>
          obtain ⟨rfl, tails⟩ := writeQuoted_inj follow
          exact ⟨rfl, tails⟩
      | _ => cases form
  | tagged name argument ih =>
      obtain ⟨form, lead, follow⟩ := follow_inj spelled spelled' ends ends' same
      cases record' with
      | tagged name' argument' =>
          obtain rfl := String.toList_inj.1 lead
          obtain ⟨rfl, tails⟩ := ih spelled.2 spelled'.2 (.mark _ (by decide))
            (.mark _ (by decide)) (List.cons.inj follow).2
          exact ⟨rfl, (List.cons.inj tails).2⟩
      | _ => cases form
  | struct name fields ih =>
      obtain ⟨form, lead, follow⟩ := follow_inj spelled spelled' ends ends' same
      cases record' with
      | struct name' fields' =>
          obtain rfl := String.toList_inj.1 lead
          have follow := (List.cons.inj (List.cons.inj (List.cons.inj follow).2).2).2
          obtain ⟨rfl, tails⟩ := ih spelled.2 spelled'.2 (.fields _) (.fields _) follow
          exact ⟨rfl, (List.cons.inj (List.cons.inj tails).2).2⟩
      | _ => cases form
  | list items ih =>
      obtain ⟨form, lead, follow⟩ := follow_inj spelled spelled' ends ends' same
      cases record' with
      | list items' =>
          obtain ⟨rfl, tails⟩ := ih spelled spelled' (.items _) (.items _) (List.cons.inj follow).2
          exact ⟨rfl, (List.cons.inj tails).2⟩
      | _ => cases form
  | noItems =>
      cases record' with
      | noItems => exact ⟨rfl, same⟩
      | item head rest =>
          cases ends
          rw [writeCompact_item] at same
          exact absurd same.symm (writeCompact_ne_bracket spelled'.1)
  | item head rest ihHead ihRest =>
      rw [writeCompact_item] at same
      cases record' with
      | noItems =>
          cases ends'
          exact absurd same (writeCompact_ne_bracket spelled.1)
      | item head' rest' =>
          rw [writeCompact_item] at same
          obtain ⟨rfl, follow⟩ := ihHead spelled.1 spelled'.1 (ends_resume_items ends)
            (ends_resume_items ends') same
          obtain ⟨rfl, tails⟩ := ihRest spelled.2 spelled'.2 ends ends'
            (resume_items_inj ends ends' follow)
          exact ⟨rfl, tails⟩
  | noFields =>
      cases record' with
      | noFields => exact ⟨rfl, same⟩
      | field label value rest =>
          cases ends
          rw [writeCompact_field] at same
          exact absurd same.symm (append_ne_of_isName spelled'.1 (by decide))
  | field label value rest ihValue ihRest =>
      rw [writeCompact_field] at same
      cases record' with
      | noFields =>
          cases ends'
          exact absurd same (append_ne_of_isName spelled.1 (by decide))
      | field label' value' rest' =>
          rw [writeCompact_field] at same
          obtain ⟨labels, follow⟩ := append_inj_of_breaks (isNameCharacter_of_isName spelled.1)
            (isNameCharacter_of_isName spelled'.1) breaks_colon breaks_colon same
          obtain rfl := String.toList_inj.1 labels
          have values := (List.cons.inj (List.cons.inj follow).2).2
          obtain ⟨rfl, rests⟩ := ihValue spelled.2.1 spelled'.2.1 (ends_resume_fields ends)
            (ends_resume_fields ends') values
          obtain ⟨rfl, tails⟩ := ihRest spelled.2.2 spelled'.2.2 ends ends'
            (resume_fields_inj ends ends' rests)
          exact ⟨rfl, tails⟩

end Ecmascript.Record
