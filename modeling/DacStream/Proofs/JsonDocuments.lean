import DacStream.Proofs.JsonTokens
import DacStream.Text.Json.Document

/-!
# How JSON documents are read

The grammar of the values, and of what stands inside the brackets of a list and of an object,
is one relation between what is written, a text and its rest (`Written`).  White space may
stand before and after every value, key and mark.

The readers work on tokens.  For each part of a document there is a row of tokens, and a
statement of what the readers make of it whatever comes after it (`Phrase.Row`): a value that
is read is the value that is written, and a value that is passed over is passed over whole,
inside any brackets.  One induction over the grammar gives the row of every part, and with it
what is read from the text of an object (`ObjectText.parse?`).
-/

namespace DacStream.Json

set_option autoImplicit false

/-! ## The grammar -/

/-- A member of an object: the text that its key denotes, if it denotes one, and its value. -/
abbrev Member := Option (List Char) × Value

/-- What a part of a document writes. -/
inductive Phrase where
  | value (value : Value)
  /-- The elements of a list, up to its closing bracket. -/
  | elements
  | member (member : Member)
  /-- The members of an object, up to its closing bracket. -/
  | members (members : List Member)

/-- A text goes on with a part of a document, and then with its rest. -/
inductive Written : Phrase → List Char → List Char → Prop
  | null (rest : List Char) : Written (.value .null) ("null".toList ++ rest) rest
  | truth (value : Bool) (rest : List Char) :
      Written (.value (.truth value)) (truthWord value ++ rest) rest
  | natural {row : List Char} {number : Nat} (rest : List Char) :
      WholeText row number → Written (.value (.natural number)) (row ++ rest) rest
  | otherNumber {row : List Char} (rest : List Char) :
      OtherNumberText row → Written (.value .otherNumber) (row ++ rest) rest
  | string {text rest : List Char} {codes : List Nat} {text? : Option (List Char)} :
      StringText text codes rest → Spell codes text? →
        Written (.value (.string text?)) ('"' :: text) rest
  | emptyList {inside rest : List Char} :
      Spaced inside (']' :: rest) → Written (.value .nested) ('[' :: inside) rest
  | list {inside first rest : List Char} :
      Spaced inside first → Written .elements first rest →
        Written (.value .nested) ('[' :: inside) rest
  | emptyObject {inside rest : List Char} :
      Spaced inside ('\x7d' :: rest) → Written (.value .nested) ('\x7b' :: inside) rest
  | object {inside first rest : List Char} {members : List Member} :
      Spaced inside first → Written (.members members) first rest →
        Written (.value .nested) ('\x7b' :: inside) rest
  | lastElement {text after rest : List Char} {value : Value} :
      Written (.value value) text after → Spaced after (']' :: rest) →
        Written .elements text rest
  | nextElement {text after behind next rest : List Char} {value : Value} :
      Written (.value value) text after → Spaced after (',' :: behind) → Spaced behind next →
        Written .elements next rest → Written .elements text rest
  | member {key after behind text rest : List Char} {codes : List Nat}
      {name? : Option (List Char)} {value : Value} :
      StringText key codes after → Spell codes name? → Spaced after (':' :: behind) →
        Spaced behind text → Written (.value value) text rest →
          Written (.member (name?, value)) ('"' :: key) rest
  | lastMember {text after rest : List Char} {member : Member} :
      Written (.member member) text after → Spaced after ('\x7d' :: rest) →
        Written (.members [member]) text rest
  | nextMember {text after behind next rest : List Char} {member : Member}
      {members : List Member} :
      Written (.member member) text after → Spaced after (',' :: behind) → Spaced behind next →
        Written (.members members) next rest → Written (.members (member :: members)) text rest

/-- The text of an object with its members, and white space around it. -/
inductive ObjectText : List Char → List Member → Prop
  | empty {text inside after : List Char} :
      Spaced text ('\x7b' :: inside) → Spaced inside ('\x7d' :: after) → Spaced after [] →
        ObjectText text []
  | filled {text inside first after : List Char} {members : List Member} :
      Spaced text ('\x7b' :: inside) → Spaced inside first →
        Written (.members members) first after → Spaced after [] → ObjectText text members

/-! ## Passing over -/

/-- Passing over goes on after the innermost bracket has closed. -/
def leave (outer : List Bracket) (later : List Token) : Option (List Token) :=
  match outer with
  | [] => some later
  | enclosing :: further => skipFrom enclosing further .separator later

theorem skipFrom_expect {bracket : Bracket} {expectation next : Expectation} {token : Token}
    (outer : List Bracket) (rest : List Token)
    (move : expectation.move? bracket token = some (.expect next)) :
    skipFrom bracket outer expectation (token :: rest) = skipFrom bracket outer next rest := by
  simp only [skipFrom, move]

theorem skipFrom_enter {bracket inner : Bracket} {expectation : Expectation} {token : Token}
    (outer : List Bracket) (rest : List Token)
    (move : expectation.move? bracket token = some (.enter inner)) :
    skipFrom bracket outer expectation (token :: rest) =
      skipFrom inner (bracket :: outer) inner.start rest := by
  simp only [skipFrom, move]

theorem skipFrom_closing (bracket : Bracket) (outer : List Bracket) (later : List Token) :
    skipFrom bracket outer .separator (.closing bracket :: later) = leave outer later := by
  cases bracket <;> cases outer <;> rfl

theorem skipFrom_closing_start (bracket : Bracket) (outer : List Bracket) (later : List Token) :
    skipFrom bracket outer bracket.start (.closing bracket :: later) = leave outer later := by
  cases bracket <;> cases outer <;> rfl

/-- A value may come. -/
def Expectation.TakesValue (expectation : Expectation) : Prop :=
  expectation = .value ∨ expectation = .firstValue

/-- A key may come. -/
def Expectation.TakesKey (expectation : Expectation) : Prop :=
  expectation = .key ∨ expectation = .firstKey

theorem move?_of_takesValue {expectation : Expectation} {token : Token} {move : Move}
    (takes : expectation.TakesValue) (begins : token.beginValue? = some move)
    (bracket : Bracket) : expectation.move? bracket token = some move := by
  rcases takes with rfl | rfl
  · exact begins
  · cases token with
    | closing closed => cases begins
    | _ => exact begins

/-! ## Rows of tokens -/

/-- What the readers make of the tokens of a value. -/
structure ValueRow (value : Value) (row : List Token) : Prop where
  reads : ∀ later, Value.read? (row ++ later) = some (value, later)
  skips : ∀ bracket outer expectation later, expectation.TakesValue →
    skipFrom bracket outer expectation (row ++ later) = skipFrom bracket outer .separator later

/-- The elements of a list are passed over, with the bracket that closes it. -/
def ElementsRow (row : List Token) : Prop :=
  ∀ outer expectation later, expectation.TakesValue →
    skipFrom .square outer expectation (row ++ later) = leave outer later

/-- A member is its key, a colon and its value. -/
def MemberRow (member : Member) (row : List Token) : Prop :=
  ∃ tokens, row = .string member.1 :: .colon :: tokens ∧ ValueRow member.2 tokens

/-- The entry of an object that a member makes, if its key denotes a text. -/
def entry? (member : Member) : Option (List Char × Value) :=
  member.1.map fun key => (key, member.2)

/-- What the readers make of the members of an object, with the bracket that closes it. -/
structure MembersRow (members : List Member) (row : List Token) : Prop where
  key : ∃ name? others, row = .string name? :: others
  enough : members.length ≤ row.length
  reads : ∀ limit later, members.length ≤ limit →
    readEntries? limit (row ++ later) = (members.mapM entry?).map (·, later)
  skips : ∀ outer expectation later, expectation.TakesKey →
    skipFrom .curly outer expectation (row ++ later) = leave outer later

/-- What the readers make of the tokens of a part of a document. -/
def Phrase.Row : Phrase → List Token → Prop
  | .value one, row => ValueRow one row
  | .elements, row => ElementsRow row
  | .member one, row => MemberRow one row
  | .members all, row => MembersRow all row

/-- A value of a single token. -/
theorem valueRow_of_token {token : Token} {value : Value}
    (reads : ∀ later, Value.read? (token :: later) = some (value, later))
    (begins : token.beginValue? = some (.expect .separator)) : ValueRow value [token] where
  reads := reads
  skips bracket outer expectation later takes := by
    rw [List.singleton_append,
      skipFrom_expect outer later (move?_of_takesValue takes begins bracket)]

/-- A value in brackets is passed over when what is inside them is. -/
theorem valueRow_nested {bracket : Bracket} {row : List Token}
    (inside : ∀ outer later,
      skipFrom bracket outer bracket.start (row ++ later) = leave outer later) :
    ValueRow .nested (.opening bracket :: row) where
  reads later := by
    rw [List.cons_append, Value.read?, inside [] later]
    rfl
  skips enclosing outer expectation later takes := by
    rw [List.cons_append, skipFrom_enter outer _ (move?_of_takesValue takes rfl enclosing)]
    exact inside (enclosing :: outer) later

theorem elementsRow_last {value : Value} {row : List Token} (element : ValueRow value row) :
    ElementsRow (row ++ [.closing .square]) := by
  intro outer expectation later takes
  rw [List.append_assoc, element.skips _ _ _ _ takes, List.singleton_append, skipFrom_closing]

theorem elementsRow_next {value : Value} {row others : List Token}
    (element : ValueRow value row) (next : ElementsRow others) :
    ElementsRow (row ++ .comma :: others) := by
  intro outer expectation later takes
  rw [List.append_assoc, element.skips _ _ _ _ takes, List.cons_append]
  exact next outer .value later (.inl rfl)

theorem MemberRow.skips {member : Member} {row : List Token} (here : MemberRow member row)
    {expectation : Expectation} (takes : expectation.TakesKey) (outer : List Bracket)
    (later : List Token) :
    skipFrom .curly outer expectation (row ++ later) =
      skipFrom .curly outer .separator later := by
  obtain ⟨tokens, rfl, value⟩ := here
  have afterColon := value.skips .curly outer .value later (.inl rfl)
  rcases takes with rfl | rfl
  · exact afterColon
  · exact afterColon

theorem MemberRow.key {member : Member} {row : List Token} (here : MemberRow member row)
    (later : List Token) : ∃ name? others, row ++ later = .string name? :: others := by
  obtain ⟨tokens, rfl, _⟩ := here
  exact ⟨member.1, _, rfl⟩

theorem membersRow_last {member : Member} {row : List Token} (here : MemberRow member row) :
    MembersRow [member] (row ++ [.closing .curly]) where
  key := here.key _
  enough := by simp
  reads limit later enough := by
    obtain ⟨fewer, rfl⟩ : ∃ fewer, limit = fewer + 1 := Nat.exists_eq_add_of_le' enough
    obtain ⟨tokens, rfl, value⟩ := here
    obtain ⟨_ | key, written⟩ := member
    · rfl
    · simp [readEntries?, value.reads, entry?]
  skips outer expectation later takes := by
    rw [List.append_assoc, here.skips takes, List.singleton_append, skipFrom_closing]

theorem membersRow_next {member : Member} {members : List Member} {row others : List Token}
    (here : MemberRow member row) (next : MembersRow members others) :
    MembersRow (member :: members) (row ++ .comma :: others) where
  key := here.key _
  enough := by
    have := next.enough
    simp only [List.length_append, List.length_cons]
    omega
  reads limit later enough := by
    obtain ⟨fewer, rfl⟩ : ∃ fewer, limit = fewer + 1 :=
      Nat.exists_eq_add_of_le' (Nat.one_le_of_lt enough)
    have rest := next.reads fewer later (Nat.le_of_succ_le_succ enough)
    obtain ⟨tokens, rfl, value⟩ := here
    obtain ⟨_ | key, written⟩ := member
    · rfl
    · simp [readEntries?, value.reads, entry?, rest]
      cases members.mapM entry? <;> rfl
  skips outer expectation later takes := by
    rw [List.append_assoc, here.skips takes, List.cons_append]
    exact next.skips outer .key later (.inl rfl)

/-! ## From the grammar to the readers -/

/-- Nothing goes on with a value before a comma or a closing bracket. -/
theorem ends_of_mem {mark : Char} (listed : mark ∈ [',', ']', '\x7d']) (rest : List Char) :
    Ends (mark :: rest) := by
  intro character here
  obtain rfl := Option.some.inj here
  simp only [List.mem_cons, List.not_mem_nil, or_false] at listed ⊢
  tauto

/-- White space and one of the marks are read as this mark. -/
theorem Spaced.mark {text rest : List Char} {mark : Char} (spaced : Spaced text (mark :: rest))
    {token : Token} (listed : ([mark], token) ∈ fixedTokens) : Scans text [token] rest :=
  spaced.scans.trans (starts_of_mem listed rest).scans

/-- A mark by itself is read as this mark. -/
theorem scans_mark {mark : Char} {token : Token} (listed : ([mark], token) ∈ fixedTokens)
    (rest : List Char) : Scans (mark :: rest) [token] rest :=
  (Spaced.refl (mark :: rest)).mark listed

/-- Every part of a document is a row of tokens, of which the readers make what is written.
The induction is on the grammar; it needs the end of the part only where this is a number. -/
theorem row_of_written {phrase : Phrase} {text rest : List Char}
    (written : Written phrase text rest) (ends : Ends rest) :
    ∃ row, Scans text row rest ∧ phrase.Row row := by
  induction written with
  | null rest =>
      exact ⟨[.null], (starts_of_mem (by decide) rest).scans, valueRow_of_token (fun _ => rfl) rfl⟩
  | truth value rest =>
      have listed : (truthWord value, .truth value) ∈ fixedTokens := by cases value <;> decide
      exact ⟨[.truth value], (starts_of_mem listed rest).scans,
        valueRow_of_token (fun _ => rfl) rfl⟩
  | @natural _ number rest whole =>
      exact ⟨[.natural number], (starts_of_wholeText whole ends).scans,
        valueRow_of_token (fun _ => rfl) rfl⟩
  | otherNumber rest other =>
      exact ⟨[.otherNumber], (starts_of_otherNumberText other ends).scans,
        valueRow_of_token (fun _ => rfl) rfl⟩
  | @string _ _ _ text? string spell =>
      exact ⟨[.string text?], (starts_of_stringText string spell).scans,
        valueRow_of_token (fun _ => rfl) rfl⟩
  | emptyList closing =>
      exact ⟨[.opening .square, .closing .square],
        (scans_mark (by decide) _).trans (closing.mark (by decide)),
        valueRow_nested fun outer later => skipFrom_closing_start .square outer later⟩
  | list spaced _ inductionHypothesis =>
      obtain ⟨row, scans, elements⟩ := inductionHypothesis ends
      exact ⟨.opening .square :: row,
        (scans_mark (by decide) _).trans (spaced.scans.trans scans),
        valueRow_nested fun outer later => elements outer .firstValue later (.inr rfl)⟩
  | emptyObject closing =>
      exact ⟨[.opening .curly, .closing .curly],
        (scans_mark (by decide) _).trans (closing.mark (by decide)),
        valueRow_nested fun outer later => skipFrom_closing_start .curly outer later⟩
  | object spaced _ inductionHypothesis =>
      obtain ⟨row, scans, members⟩ := inductionHypothesis ends
      exact ⟨.opening .curly :: row,
        (scans_mark (by decide) _).trans (spaced.scans.trans scans),
        valueRow_nested fun outer later => members.skips outer .firstKey later (.inr rfl)⟩
  | lastElement _ closing inductionHypothesis =>
      obtain ⟨row, scans, value⟩ := inductionHypothesis (closing.ends (ends_of_mem (by decide) _))
      exact ⟨row ++ [Token.closing .square], scans.trans (closing.mark (by decide)),
        elementsRow_last value⟩
  | nextElement _ comma spaced _ elementHypothesis listHypothesis =>
      obtain ⟨row, scans, value⟩ := elementHypothesis (comma.ends (ends_of_mem (by decide) _))
      obtain ⟨others, scansOthers, elements⟩ := listHypothesis ends
      exact ⟨row ++ Token.comma :: others,
        scans.trans ((comma.mark (by decide)).trans (spaced.scans.trans scansOthers)),
        elementsRow_next value elements⟩
  | @member _ _ _ _ _ _ name? _ string spell colon spaced _ inductionHypothesis =>
      obtain ⟨row, scans, value⟩ := inductionHypothesis ends
      exact ⟨.string name? :: .colon :: row,
        (starts_of_stringText string spell).scans.trans
          ((colon.mark (by decide)).trans (spaced.scans.trans scans)),
        row, rfl, value⟩
  | lastMember _ closing inductionHypothesis =>
      obtain ⟨row, scans, member⟩ := inductionHypothesis (closing.ends (ends_of_mem (by decide) _))
      exact ⟨row ++ [Token.closing .curly], scans.trans (closing.mark (by decide)),
        membersRow_last member⟩
  | nextMember _ comma spaced _ memberHypothesis listHypothesis =>
      obtain ⟨row, scans, member⟩ := memberHypothesis (comma.ends (ends_of_mem (by decide) _))
      obtain ⟨others, scansOthers, members⟩ := listHypothesis ends
      exact ⟨row ++ Token.comma :: others,
        scans.trans ((comma.mark (by decide)).trans (spaced.scans.trans scansOthers)),
        membersRow_next member members⟩

theorem ofTokens?_of_membersRow {members : List Member} {row : List Token}
    (here : MembersRow members row) :
    Document.ofTokens? (.opening .curly :: row) =
      (members.mapM entry?).map fun entries => (.object entries, []) := by
  have read := here.reads row.length [] here.enough
  obtain ⟨name?, others, rfl⟩ := here.key
  rw [List.append_nil] at read
  rw [Document.ofTokens?, read, Option.map_map]
  · rfl
  · exact fun _ closing => nomatch closing

/-- A text that is scanned as a whole is read as a document when the reader leaves nothing. -/
theorem parse?_of_lexes {text : List Char} {tokens : List Token} {document? : Option Document}
    (lexes : Lexes text tokens)
    (read : Document.ofTokens? tokens = document?.map fun document => (document, [])) :
    Document.parse? text = document? := by
  rw [Document.parse?, lexes.scanAll]
  simp only [Option.bind_eq_bind, Option.bind_some, read]
  cases document? <;> rfl

/-- An object is read as its members in order, provided every key denotes a text. -/
theorem ObjectText.parse? {text : List Char} {members : List Member}
    (object : ObjectText text members) :
    Document.parse? text = (members.mapM entry?).map .object := by
  cases object with
  | empty opening closing blank =>
      have scans : Scans text [.opening .curly, .closing .curly] [] :=
        (opening.mark (by decide)).trans ((closing.mark (by decide)).trans blank.scans)
      exact parse?_of_lexes (scans [] lexes_nil) rfl
  | filled opening spaced written blank =>
      obtain ⟨row, scansRow, here⟩ :=
        row_of_written written (blank.ends fun _ nothing => nomatch nothing)
      have scans : Scans text (.opening .curly :: (row ++ [])) [] :=
        (opening.mark (by decide)).trans (spaced.scans.trans (scansRow.trans blank.scans))
      have lexes := scans [] lexes_nil
      rw [List.append_nil, List.append_nil] at lexes
      refine parse?_of_lexes lexes ?_
      rw [ofTokens?_of_membersRow here, Option.map_map]
      rfl

/-! ## What is written -/

/-- A text that needs no escape. -/
def Plain (text : List Char) : Prop :=
  ∀ character ∈ text, 0x20 ≤ character.toNat ∧ character ≠ '"' ∧ character ≠ '\\'

instance (text : List Char) : Decidable (Plain text) :=
  List.decidableBAll _ text

theorem stringText_of_plain {text : List Char} (plain : Plain text) (rest : List Char) :
    StringText (text ++ '"' :: rest) (text.map Char.toNat) rest := by
  induction text with
  | nil => exact .quote rest
  | cons character others inductionHypothesis =>
      obtain ⟨⟨printable, noQuote, noEscape⟩, plainOthers⟩ := List.forall_mem_cons.mp plain
      exact .plain printable noQuote noEscape (inductionHypothesis plainOthers)

theorem denotes_map_toNat (text : List Char) : Denotes (text.map Char.toNat) text := by
  induction text with
  | nil => exact .nil
  | cons character others inductionHypothesis => exact .single character inductionHypothesis

/-- Codes denote one text at most. -/
theorem spell_of_denotes {codes : List Nat} {text : List Char} (denotes : Denotes codes text) :
    Spell codes (some text) := by
  intro other
  constructor
  · rintro same
    exact Option.some.inj same ▸ denotes
  · intro others
    rw [← textOfCodes?_of_denotes denotes, textOfCodes?_of_denotes others]

/-- An entry to be written: its key, its value, and how the value is spelled. -/
structure Spelling where
  key : List Char
  value : Value
  text : List Char

namespace Spelling

/-- The key needs no escape, and the value is spelled right. -/
structure Right (spelling : Spelling) : Prop where
  plain : Plain spelling.key
  value : ∀ rest, Written (.value spelling.value) (spelling.text ++ rest) rest

/-- The member that the entry becomes. -/
def member (spelling : Spelling) : Member := (some spelling.key, spelling.value)

/-- The text of the entry. -/
def entryText (spelling : Spelling) : List Char := quoted spelling.key ++ ':' :: spelling.text

theorem Right.written {spelling : Spelling} (right : spelling.Right) (rest : List Char) :
    Written (.member spelling.member) (spelling.entryText ++ rest) rest := by
  have key := stringText_of_plain right.plain (':' :: (spelling.text ++ rest))
  have member := Written.member key (spell_of_denotes (denotes_map_toNat _)) (Spaced.refl _)
    (Spaced.refl _) (right.value rest)
  have same : '"' :: (spelling.key ++ '"' :: ':' :: (spelling.text ++ rest)) =
      spelling.entryText ++ rest := by
    simp [entryText, quoted]
  rwa [same] at member

theorem Right.natural {key : List Char} (plain : Plain key) (number : Nat) :
    Right ⟨key, .natural number, Numeral.digits number⟩ :=
  ⟨plain, fun rest => .natural rest (wholeText_digits number)⟩

theorem Right.truth {key : List Char} (plain : Plain key) (value : Bool) :
    Right ⟨key, .truth value, truthWord value⟩ :=
  ⟨plain, fun rest => .truth value rest⟩

theorem written_intercalate {spelling : Spelling} {spellings : List Spelling}
    (right : ∀ one ∈ spelling :: spellings, one.Right) (rest : List Char) :
    Written (.members ((spelling :: spellings).map member))
      ([','].intercalate ((spelling :: spellings).map entryText) ++ '\x7d' :: rest) rest := by
  induction spellings generalizing spelling with
  | nil =>
      simp only [List.map_cons, List.map_nil, List.intercalate_singleton]
      exact .lastMember ((right spelling List.mem_cons_self).written _) (Spaced.refl _)
  | cons next others inductionHypothesis =>
      obtain ⟨here, rightOthers⟩ := List.forall_mem_cons.mp right
      have written := inductionHypothesis rightOthers
      simp only [List.map_cons, List.intercalate_cons_cons, List.append_assoc,
        List.singleton_append] at written ⊢
      exact .nextMember (here.written _) (Spaced.refl _) (Spaced.refl _) written

/-- What is written as an object is the text of one, with the same members. -/
theorem objectText_renderObject {spellings : List Spelling}
    (right : ∀ one ∈ spellings, one.Right) :
    ObjectText (renderObject (spellings.map fun one => (one.key, one.text)))
      (spellings.map member) := by
  have members : (spellings.map fun one => (one.key, one.text)).map
      (fun entry => quoted entry.1 ++ ':' :: entry.2) = spellings.map entryText := by
    rw [List.map_map]
    rfl
  rw [renderObject, members]
  cases spellings with
  | nil => exact .empty (Spaced.refl _) (Spaced.refl _) (Spaced.refl _)
  | cons spelling others =>
      exact .filled (Spaced.refl _) (Spaced.refl _) (written_intercalate right []) (Spaced.refl _)

end Spelling

end DacStream.Json
