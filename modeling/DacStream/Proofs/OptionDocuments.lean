import DacStream.Proofs.JsonDocuments
import DacStream.Proofs.KeyValueOptions

/-!
# Options as documents

An object gives options if no two of its members name the same option, and every member that
names one has a value of the right kind that is not too large.  The options that it names are
then what it says, and the others have their defaults (`StreamOptions.Describes`).  Nothing
else counts: not the order of the members, not the members that name no option, not the white
space, and not how the keys are escaped.

What the library writes itself is such an object, so it is read back.
-/

namespace DacStream

set_option autoImplicit false

/-! ## Names and values -/

namespace OptionKey

/-- The names that an option can have in a document. -/
def names : OptionKey → List String
  | .bufferLength => ["bufflen"]
  | .bufferCount => ["buffers"]
  | .asyncBuffers => ["asyncBuffs", "async_buffs"]
  | .swap => ["iq_swap"]

/-- The key of a member names an option. -/
def NamedBy (key : OptionKey) (member : Json.Member) : Prop :=
  ∃ name ∈ key.names, member.1 = some name.toList

/-- A value that an option can have in a document. -/
def Allows : OptionKey → Json.Value → Prop
  | .bufferLength, value => value = .null ∨ ∃ number < UInt64.size, value = .natural number
  | .bufferCount, value => ∃ number < UInt64.size, value = .natural number
  | .asyncBuffers, value => ∃ number < UInt32.size, value = .natural number
  | .swap, value => ∃ truth, value = .truth truth

/-- No name is the name of two options. -/
theorem eq_of_names {first second : OptionKey} {name other : String} (named : name ∈ first.names)
    (otherNamed : other ∈ second.names) (same : name.toList = other.toList) : first = second := by
  obtain rfl := String.toList_inj.mp same
  revert name
  cases first <;> cases second <;> decide

theorem matches_iff (key : OptionKey) (text : List Char) :
    (key.name.toList == text || (key.secondName?.map String.toList) == some text) = true ↔
      ∃ name ∈ key.names, text = name.toList := by
  rw [Bool.or_eq_true, beq_iff_eq, beq_iff_eq]
  cases key <;>
    simp only [name, secondName?, names, Option.map_some, Option.map_none, reduceCtorEq,
      Option.some.injEq, List.mem_cons, List.not_mem_nil, or_false, exists_eq_left,
      exists_eq_or_imp, eq_comm]

/-- The key of a document that names an option is one of the names of this option. -/
theorem ofName?_eq_some_iff {text : List Char} {key : OptionKey} :
    ofName? text = some key ↔ ∃ name ∈ key.names, text = name.toList := by
  have sound : ∀ {key}, ofName? text = some key → ∃ name ∈ key.names, text = name.toList :=
    fun found => (matches_iff _ text).mp (List.find?_eq_some_iff_append.mp found).1
  constructor
  · exact sound
  · rintro ⟨name, named, rfl⟩
    have listed : key ∈ all := by cases key <;> decide
    have found : (ofName? name.toList).isSome :=
      List.find?_isSome.mpr ⟨key, listed, (matches_iff key name.toList).mpr ⟨name, named, rfl⟩⟩
    obtain ⟨other, found⟩ := Option.isSome_iff_exists.mp found
    obtain ⟨otherName, otherNamed, same⟩ := sound found
    rw [found, eq_of_names named otherNamed same]

theorem namedBy_some {key : OptionKey} {entry : List Char × Json.Value} :
    key.NamedBy (some entry.1, entry.2) ↔ ofName? entry.1 = some key := by
  rw [ofName?_eq_some_iff]
  simp only [NamedBy, Option.some.injEq]

end OptionKey

namespace StreamOptions

/-- What a document says of an option. -/
def documentValue (options : StreamOptions) : OptionKey → Json.Value
  | .bufferLength => match options.bufferLength? with
    | none => .null
    | some length => .natural length.toNat
  | .bufferCount => .natural options.bufferCount.toNat
  | .asyncBuffers => .natural options.asyncBuffers.toNat
  | .swap => .truth options.swap

/-- No two members of an object name the same option. -/
def Distinct (members : List Json.Member) : Prop :=
  members.Pairwise fun first second => ∀ key : OptionKey,
    key.NamedBy first → ¬key.NamedBy second

/-- The members of an object give these options: those that are named have the value they are
named with, and the others have their defaults. -/
structure Describes (members : List Json.Member) (options : StreamOptions) : Prop where
  named : ∀ member ∈ members, ∀ key : OptionKey, key.NamedBy member →
    member.2 = options.documentValue key
  unnamed : ∀ key : OptionKey, (∀ member ∈ members, ¬key.NamedBy member) →
    options.AgreeOn {} key

theorem documentValue_eq_iff {first second : StreamOptions} {key : OptionKey} :
    first.documentValue key = second.documentValue key ↔ first.AgreeOn second key := by
  cases key with
  | bufferLength =>
      obtain ⟨length?, _, _, _⟩ := first
      obtain ⟨other?, _, _, _⟩ := second
      cases length? <;> cases other? <;> simp [documentValue, AgreeOn, UInt64.toNat_inj]
  | bufferCount => simp [documentValue, AgreeOn, UInt64.toNat_inj]
  | asyncBuffers => simp [documentValue, AgreeOn, UInt32.toNat_inj]
  | swap => simp [documentValue, AgreeOn]

theorem AgreeOn.trans {first second third : StreamOptions} {key : OptionKey}
    (left : first.AgreeOn second key) (right : second.AgreeOn third key) :
    first.AgreeOn third key := by
  rw [← documentValue_eq_iff] at left right ⊢
  exact left.trans right

theorem AgreeOn.symm {first second : StreamOptions} {key : OptionKey}
    (agree : first.AgreeOn second key) : second.AgreeOn first key :=
  documentValue_eq_iff.mp (documentValue_eq_iff.mpr agree).symm

/-- The members of an object describe one choice of options at most. -/
theorem Describes.unique {members : List Json.Member} {first second : StreamOptions}
    (describes : Describes members first) (other : Describes members second) :
    first = second := by
  apply eq_of_agreeOn
  intro key
  by_cases named : ∃ member ∈ members, key.NamedBy member
  · obtain ⟨member, listed, here⟩ := named
    exact documentValue_eq_iff.mp
      ((describes.named member listed key here).symm.trans (other.named member listed key here))
  · have absent : ∀ member ∈ members, ¬key.NamedBy member :=
      fun member listed here => named ⟨member, listed, here⟩
    exact (describes.unnamed key absent).trans (other.unnamed key absent).symm

/-- The options with one of them taken from another choice. -/
def taking (options : StreamOptions) (key : OptionKey) (source : StreamOptions) :
    StreamOptions :=
  match key with
  | .bufferLength => { options with bufferLength? := source.bufferLength? }
  | .bufferCount => { options with bufferCount := source.bufferCount }
  | .asyncBuffers => { options with asyncBuffers := source.asyncBuffers }
  | .swap => { options with swap := source.swap }

theorem taking_agreeOn (options : StreamOptions) (key : OptionKey) (source : StreamOptions) :
    (options.taking key source).AgreeOn source key := by
  cases key <;> rfl

theorem taking_agreeOn_other (options source : StreamOptions) {key other : OptionKey}
    (differ : other ≠ key) : (options.taking key source).AgreeOn options other := by
  cases key <;> cases other <;> first | rfl | exact absurd rfl differ

/-- What is allowed for an option is what some choice has for it. -/
theorem allows_iff {key : OptionKey} {value : Json.Value} :
    key.Allows value ↔ ∃ source : StreamOptions, value = source.documentValue key := by
  constructor
  · cases key with
    | bufferLength =>
        rintro (rfl | ⟨number, small, rfl⟩)
        · exact ⟨{ bufferLength? := none }, rfl⟩
        · exact ⟨{ bufferLength? := some (UInt64.ofNat number) },
            congrArg Json.Value.natural (UInt64.toNat_ofNat_of_lt' small).symm⟩
    | bufferCount =>
        rintro ⟨number, small, rfl⟩
        exact ⟨{ bufferCount := UInt64.ofNat number },
          congrArg Json.Value.natural (UInt64.toNat_ofNat_of_lt' small).symm⟩
    | asyncBuffers =>
        rintro ⟨number, small, rfl⟩
        exact ⟨{ asyncBuffers := UInt32.ofNat number },
          congrArg Json.Value.natural (UInt32.toNat_ofNat_of_lt' small).symm⟩
    | swap =>
        rintro ⟨truth, rfl⟩
        exact ⟨{ swap := truth }, rfl⟩
  · rintro ⟨⟨length?, count, async, swap⟩, rfl⟩
    cases key with
    | bufferLength =>
        cases length? with
        | none => exact .inl rfl
        | some length => exact .inr ⟨length.toNat, length.toNat_lt, rfl⟩
    | bufferCount => exact ⟨count.toNat, count.toNat_lt, rfl⟩
    | asyncBuffers => exact ⟨async.toNat, async.toNat_lt, rfl⟩
    | swap => exact ⟨swap, rfl⟩

/-- What describes options has a value for each that they allow. -/
theorem Describes.allows {members : List Json.Member} {options : StreamOptions}
    (describes : Describes members options) :
    ∀ member ∈ members, ∀ key : OptionKey, key.NamedBy member → key.Allows member.2 :=
  fun member listed key named => allows_iff.mpr ⟨options, describes.named member listed key named⟩

theorem setValue?_documentValue (options source : StreamOptions) (key : OptionKey) :
    options.setValue? key (source.documentValue key) = some (options.taking key source) := by
  obtain ⟨length?, count, async, swap⟩ := source
  cases key with
  | bufferLength =>
      cases length? with
      | none => rfl
      | some length => simp [setValue?, documentValue, taking, length.toNat_lt_size]
  | bufferCount => simp [setValue?, documentValue, taking, count.toNat_lt_size]
  | asyncBuffers => simp [setValue?, documentValue, taking, async.toNat_lt_size]
  | swap => rfl

theorem allows_of_setValue? {options result : StreamOptions} {key : OptionKey}
    {value : Json.Value} (set : options.setValue? key value = some result) : key.Allows value := by
  have fits {bound number : Nat} {choice : StreamOptions}
      (guarded : (if number < bound then some choice else none) = some result) :
      number < bound := by
    by_contra large
    rw [if_neg large] at guarded
    cases guarded
  cases key <;> cases value <;> first
    | cases set
    | skip
  · exact .inl rfl
  · exact .inr ⟨_, fits set, rfl⟩
  · exact ⟨_, fits set, rfl⟩
  · exact ⟨_, fits set, rfl⟩
  · exact ⟨_, rfl⟩

/-- An option is set when the document has the value it is set to, and nothing else changes. -/
theorem setValue?_eq_some_iff {options result : StreamOptions} {key : OptionKey}
    {value : Json.Value} :
    options.setValue? key value = some result ↔
      value = result.documentValue key ∧ ∀ other, other ≠ key → result.AgreeOn options other := by
  constructor
  · intro set
    obtain ⟨source, rfl⟩ := allows_iff.mp (allows_of_setValue? set)
    obtain rfl := Option.some.inj ((setValue?_documentValue options source key).symm.trans set)
    exact ⟨(documentValue_eq_iff.mpr (options.taking_agreeOn key source)).symm,
      fun other differ => options.taking_agreeOn_other source differ⟩
  · rintro ⟨rfl, others⟩
    rw [setValue?_documentValue]
    congr 1
    apply eq_of_agreeOn
    intro other
    by_cases same : other = key
    · subst same
      exact options.taking_agreeOn other result
    · exact (options.taking_agreeOn_other result same).trans (others other same).symm

/-! ## Reading an object -/

/-- The options that are set one after the other, each at most once, and those that are not. -/
theorem foldlM_setValue?_eq_some_iff {entries : List (OptionKey × Json.Value)}
    {start result : StreamOptions} (distinct : (entries.map Prod.fst).Nodup) :
    entries.foldlM (fun options entry => options.setValue? entry.1 entry.2) start = some result ↔
      (∀ entry ∈ entries, entry.2 = result.documentValue entry.1) ∧
        ∀ key, key ∉ entries.map Prod.fst → result.AgreeOn start key := by
  induction entries generalizing start with
  | nil =>
      simp only [List.foldlM_nil, List.map_nil, List.not_mem_nil, not_false_eq_true, true_imp_iff,
        false_imp_iff, implies_true, true_and]
      constructor
      · intro same key
        exact Option.some.inj same ▸ documentValue_eq_iff.mp rfl
      · exact fun agree => congrArg some (eq_of_agreeOn agree).symm
  | cons entry others inductionHypothesis =>
      obtain ⟨key, value⟩ := entry
      obtain ⟨notOthers, distinctOthers⟩ := List.nodup_cons.mp distinct
      rw [List.foldlM_cons, Option.bind_eq_bind, Option.bind_eq_some_iff, List.forall_mem_cons]
      simp only [setValue?_eq_some_iff, inductionHypothesis distinctOthers]
      constructor
      · rintro ⟨middle, ⟨rfl, kept⟩, named, unnamed⟩
        refine ⟨⟨documentValue_eq_iff.mpr (unnamed key notOthers).symm, named⟩, ?_⟩
        intro other absent
        obtain ⟨differ, notNamed⟩ := List.ne_and_not_mem_of_not_mem_cons absent
        exact (unnamed other notNamed).trans (kept other differ)
      · rintro ⟨⟨here, named⟩, unnamed⟩
        refine ⟨start.taking key result, ⟨?_, fun _ => start.taking_agreeOn_other result⟩,
          named, ?_⟩
        · exact here.trans (documentValue_eq_iff.mpr (start.taking_agreeOn key result)).symm
        · intro other notNamed
          by_cases same : other = key
          · subst same
            exact (start.taking_agreeOn other result).symm
          · exact (unnamed other (List.not_mem_cons_of_ne_of_not_mem same notNamed)).trans
              (start.taking_agreeOn_other result same).symm

/-- Every option that is set to something it allows is set. -/
theorem exists_foldlM_setValue? {entries : List (OptionKey × Json.Value)} (start : StreamOptions)
    (allowed : ∀ entry ∈ entries, entry.1.Allows entry.2) :
    ∃ result, entries.foldlM (fun options entry => options.setValue? entry.1 entry.2) start =
      some result := by
  induction entries generalizing start with
  | nil => exact ⟨start, rfl⟩
  | cons entry others inductionHypothesis =>
      obtain ⟨here, allowedOthers⟩ := List.forall_mem_cons.mp allowed
      obtain ⟨source, value⟩ := allows_iff.mp here
      rw [List.foldlM_cons, value, setValue?_documentValue]
      exact inductionHypothesis _ allowedOthers

/-- The member of an object that becomes an entry. -/
def memberOf (entry : List Char × Json.Value) : Json.Member := (some entry.1, entry.2)

/-- The entries of an object that name an option, with the option for the key. -/
def known (entries : List (List Char × Json.Value)) : List (OptionKey × Json.Value) :=
  entries.filterMap fun entry => (OptionKey.ofName? entry.1).map fun key => (key, entry.2)

variable {entries : List (List Char × Json.Value)} {key : OptionKey}

theorem mem_known_iff {value : Json.Value} : (key, value) ∈ known entries ↔
    ∃ member ∈ entries.map memberOf, key.NamedBy member ∧ member.2 = value := by
  simp only [known, List.mem_filterMap, Option.map_eq_some_iff, Prod.mk.injEq, List.mem_map]
  constructor
  · rintro ⟨entry, listed, _, found, rfl, rfl⟩
    exact ⟨_, ⟨entry, listed, rfl⟩, OptionKey.namedBy_some.mpr found, rfl⟩
  · rintro ⟨_, ⟨entry, listed, rfl⟩, named, rfl⟩
    exact ⟨entry, listed, key, OptionKey.namedBy_some.mp named, rfl, rfl⟩

theorem nodup_known_iff :
    ((known entries).map Prod.fst).Nodup ↔ Distinct (entries.map memberOf) := by
  rw [known, List.map_filterMap, List.Nodup, List.pairwise_filterMap, Distinct, List.pairwise_map]
  refine List.Pairwise.iff fun first second => ?_
  simp only [Option.map_map, Option.map_eq_some_iff, memberOf, OptionKey.namedBy_some,
    Function.comp_apply]
  constructor
  · intro differ key named otherNamed
    exact differ key ⟨key, named, rfl⟩ key ⟨key, otherNamed, rfl⟩ rfl
  · rintro apart _ ⟨key, named, rfl⟩ _ ⟨_, otherNamed, rfl⟩ rfl
    exact apart key named otherNamed

theorem describes_iff {options : StreamOptions} :
    Describes (entries.map memberOf) options ↔
      (∀ entry ∈ known entries, entry.2 = options.documentValue entry.1) ∧
        ∀ key, key ∉ (known entries).map Prod.fst → options.AgreeOn {} key := by
  have absent_iff : ∀ key, key ∉ (known entries).map Prod.fst ↔
      ∀ member ∈ entries.map memberOf, ¬OptionKey.NamedBy key member := by
    intro key
    constructor
    · exact fun absent member listed named => absent (List.mem_map.mpr
        ⟨(key, member.2), mem_known_iff.mpr ⟨member, listed, named, rfl⟩, rfl⟩)
    · intro absent listed
      obtain ⟨⟨_, value⟩, entry, rfl⟩ := List.mem_map.mp listed
      obtain ⟨member, listedMember, named, _⟩ := mem_known_iff.mp entry
      exact absent member listedMember named
  simp only [absent_iff]
  constructor
  · rintro ⟨named, unnamed⟩
    refine ⟨fun ⟨key, value⟩ entry => ?_, unnamed⟩
    obtain ⟨member, listed, here, rfl⟩ := mem_known_iff.mp entry
    exact named member listed key here
  · rintro ⟨named, unnamed⟩
    exact ⟨fun member listed key here =>
      named (key, member.2) (mem_known_iff.mpr ⟨member, listed, here, rfl⟩), unnamed⟩

theorem ofDocument?_object_eq_some_iff {options : StreamOptions} :
    ofDocument? (.object entries) = some options ↔
      Distinct (entries.map memberOf) ∧ Describes (entries.map memberOf) options := by
  rw [describes_iff, ← nodup_known_iff]
  show (if ((known entries).map Prod.fst).Nodup then ofValues? (known entries) else none) = _ ↔ _
  by_cases distinct : ((known entries).map Prod.fst).Nodup
  · rw [if_pos distinct, ofValues?, foldlM_setValue?_eq_some_iff distinct, and_iff_right distinct]
  · rw [if_neg distinct]
    simp only [reduceCtorEq, distinct, false_and]

/-- An object is not refused if no option is named twice, and each that is named has a value it
allows. -/
theorem exists_ofDocument?_object (distinct : Distinct (entries.map memberOf))
    (allowed : ∀ member ∈ entries.map memberOf, ∀ key : OptionKey,
      key.NamedBy member → key.Allows member.2) :
    ∃ options, ofDocument? (.object entries) = some options := by
  show ∃ options, (if ((known entries).map Prod.fst).Nodup then _ else none) = some options
  rw [if_pos (nodup_known_iff.mpr distinct)]
  apply exists_foldlM_setValue?
  rintro ⟨key, value⟩ listed
  obtain ⟨member, listedMember, named, rfl⟩ := mem_known_iff.mp listed
  exact allowed member listedMember key named

/-! ## Reading a text -/

section

variable {text : List Char} {members : List Json.Member}

theorem mapM_entry?_eq_some_iff :
    members.mapM Json.entry? = some entries ↔ members = entries.map memberOf := by
  induction members generalizing entries with
  | nil => simp [eq_comm]
  | cons member others inductionHypothesis =>
      simp only [List.mapM_cons, Option.bind_eq_bind, Option.bind_eq_some_iff, Option.pure_def,
        Option.some.injEq, inductionHypothesis, Json.entry?, Option.map_eq_some_iff]
      constructor
      · rintro ⟨_, ⟨key, denotes, rfl⟩, rest, rfl, rfl⟩
        rw [List.map_cons, memberOf, ← denotes]
      · intro same
        obtain ⟨⟨key, value⟩, rest, rfl, rfl, rfl⟩ := List.map_eq_cons_iff.mp same.symm
        exact ⟨(key, value), ⟨key, rfl, rfl⟩, rest, rfl, rfl⟩

/-- Members whose keys denote texts are entries. -/
theorem exists_entries (keys : ∀ member ∈ members, member.1.isSome) :
    ∃ entries : List (List Char × Json.Value), members = entries.map memberOf := by
  have same : ∀ member ∈ members, memberOf (member.1.getD [], member.2) = member := by
    intro member listed
    obtain ⟨key, denotes⟩ := Option.isSome_iff_exists.mp (keys member listed)
    rw [memberOf, denotes]
    exact Prod.ext denotes.symm rfl
  refine ⟨members.map fun member => (member.1.getD [], member.2), ?_⟩
  rw [List.map_map]
  exact ((List.map_congr_left same).trans (List.map_id members)).symm

/-- An object gives the options that its entries give, and none if a key denotes no text. -/
theorem parse?_eq_some_iff_entries (object : Json.ObjectText text members)
    {options : StreamOptions} : parse? text = some options ↔
      ∃ entries, members = entries.map memberOf ∧ ofDocument? (.object entries) = some options := by
  rw [parse?, object.parse?, Option.bind_eq_some_iff]
  simp only [Option.map_eq_some_iff, mapM_entry?_eq_some_iff]
  constructor
  · rintro ⟨_, ⟨entries, same, rfl⟩, read⟩
    exact ⟨entries, same, read⟩
  · rintro ⟨entries, same, read⟩
    exact ⟨_, ⟨entries, same, rfl⟩, read⟩

/-- **What an object gives.**  It gives options if every key denotes a text and no two members
name the same option, and then it gives the ones that it describes. -/
theorem parse?_eq_some_iff (object : Json.ObjectText text members) {options : StreamOptions} :
    parse? text = some options ↔
      (∀ member ∈ members, member.1.isSome) ∧ Distinct members ∧ Describes members options := by
  rw [parse?_eq_some_iff_entries object]
  constructor
  · rintro ⟨entries, rfl, read⟩
    refine ⟨fun member listed => ?_, ofDocument?_object_eq_some_iff.mp read⟩
    obtain ⟨entry, _, rfl⟩ := List.mem_map.mp listed
    rfl
  · rintro ⟨keys, described⟩
    obtain ⟨entries, rfl⟩ := exists_entries keys
    exact ⟨entries, rfl, ofDocument?_object_eq_some_iff.mpr described⟩

end

/-! ## Reading what is written -/

/-- The entries of options that are written. -/
def spellings (options : StreamOptions) : List Json.Spelling :=
  OptionKey.all.map fun key =>
    { key := key.name.toList
      value := options.documentValue key
      text := (options.spelling? key).getD "null".toList }

theorem render_eq (options : StreamOptions) :
    options.render =
      Json.renderObject (options.spellings.map fun spelling => (spelling.key, spelling.text)) := by
  obtain ⟨length?, count, async, swap⟩ := options
  cases length? <;> cases swap <;> rfl

theorem right_of_mem_spellings {options : StreamOptions} {spelling : Json.Spelling}
    (listed : spelling ∈ options.spellings) : spelling.Right := by
  obtain ⟨key, _, rfl⟩ := List.mem_map.mp listed
  have plain : Json.Plain key.name.toList := by cases key <;> decide
  obtain ⟨length?, count, async, swap⟩ := options
  cases key with
  | bufferLength =>
      cases length? with
      | none => exact ⟨plain, fun rest => .null rest⟩
      | some length => exact .natural plain length.toNat
  | bufferCount => exact .natural plain count.toNat
  | asyncBuffers => exact .natural plain async.toNat
  | swap => cases swap <;> exact .truth plain _

/-- The member of an option that is written. -/
def ownMember (options : StreamOptions) (key : OptionKey) : Json.Member :=
  (some key.name.toList, options.documentValue key)

theorem map_member_spellings (options : StreamOptions) :
    options.spellings.map Json.Spelling.member = OptionKey.all.map options.ownMember := by
  rw [spellings, List.map_map]
  rfl

/-- The member of an option names this option and no other. -/
theorem namedBy_ownMember {options : StreamOptions} {key other : OptionKey} :
    key.NamedBy (options.ownMember other) ↔ key = other := by
  have named : other.name ∈ other.names := by cases other <;> decide
  constructor
  · rintro ⟨name, keyNamed, same⟩
    exact OptionKey.eq_of_names keyNamed named (Option.some.inj same).symm
  · rintro rfl
    exact ⟨key.name, named, rfl⟩

/-- Options that are written are described by what is written. -/
theorem describes_ownMembers (options : StreamOptions) :
    Distinct (OptionKey.all.map options.ownMember) ∧
      Describes (OptionKey.all.map options.ownMember) options := by
  refine ⟨?_, ⟨?_, ?_⟩⟩
  · have apart : OptionKey.all.Pairwise (· ≠ ·) := by decide
    rw [Distinct, List.pairwise_map]
    exact apart.imp fun differ key named other =>
      differ ((namedBy_ownMember.mp named).symm.trans (namedBy_ownMember.mp other))
  · intro member listed key named
    obtain ⟨other, _, rfl⟩ := List.mem_map.mp listed
    obtain rfl := namedBy_ownMember.mp named
    rfl
  · intro key absent
    have listed : key ∈ OptionKey.all := by cases key <;> decide
    exact absurd (namedBy_ownMember.mpr rfl)
      (absent (options.ownMember key) (List.mem_map.mpr ⟨key, listed, rfl⟩))

/-- **Options that are written as a document are read back.** -/
theorem parse?_render (options : StreamOptions) : parse? options.render = some options := by
  have object : Json.ObjectText options.render (OptionKey.all.map options.ownMember) := by
    rw [render_eq, ← map_member_spellings]
    exact Json.Spelling.objectText_renderObject fun _ listed => right_of_mem_spellings listed
  refine (parse?_eq_some_iff object).mpr ⟨fun member listed => ?_, options.describes_ownMembers⟩
  obtain ⟨key, _, rfl⟩ := List.mem_map.mp listed
  rfl

/-- How options are told from documents. -/
structure ReadsDocuments : Prop where
  /-- Options that are written are read back. -/
  readBack : ∀ options : StreamOptions, parse? options.render = some options
  /-- An object that names no option twice, and each with a value it allows, gives the options
  that it describes. -/
  read : ∀ (text : List Char) (members : List Json.Member), Json.ObjectText text members →
    (∀ member ∈ members, member.1.isSome) → Distinct members →
    (∀ member ∈ members, ∀ key : OptionKey, key.NamedBy member → key.Allows member.2) →
      ∃ options, parse? text = some options ∧ Describes members options
  /-- An object that names an option twice is refused. -/
  refused : ∀ (text : List Char) (members : List Json.Member), Json.ObjectText text members →
    ¬Distinct members → parse? text = none

/-- **Documents are read for what they say**: an object sets the options that it names, in any
layout and order, and no option may be named twice. -/
theorem documents_read : ReadsDocuments where
  readBack := parse?_render
  read := by
    intro text members object keys distinct allowed
    obtain ⟨entries, rfl⟩ := exists_entries keys
    obtain ⟨options, read⟩ := exists_ofDocument?_object distinct allowed
    exact ⟨options, (parse?_eq_some_iff_entries object).mpr ⟨entries, rfl, read⟩,
      (ofDocument?_object_eq_some_iff.mp read).2⟩
  refused := by
    intro text members object twice
    rw [Option.eq_none_iff_forall_ne_some]
    exact fun options read => twice ((parse?_eq_some_iff object).mp read).2.1

/-- The order of the members and a key that names no option do not matter, and the number of
buffers in flight can be given under either of its names, but not under both. -/
theorem documents_read_shuffled :
    parse? "\x7b\"iq_swap\":true,\"rate\":250,\"async_buffs\":7,\"buffers\":9\x7d".toList =
      some ⟨none, 9, 7, true⟩ ∧
    parse? "\x7b\"asyncBuffs\":1,\"async_buffs\":2\x7d".toList = none := by
  constructor
  · let entries : List (List Char × Json.Value) := [("iq_swap".toList, .truth true),
      ("rate".toList, .natural 250), ("async_buffs".toList, .natural 7),
      ("buffers".toList, .natural 9)]
    have right : ∀ spelling ∈
        [Json.Spelling.mk "iq_swap".toList (.truth true) (Json.truthWord true),
        ⟨"rate".toList, .natural 250, Numeral.digits 250⟩,
        ⟨"async_buffs".toList, .natural 7, Numeral.digits 7⟩,
        ⟨"buffers".toList, .natural 9, Numeral.digits 9⟩], spelling.Right := by
      simp only [List.forall_mem_cons, List.not_mem_nil, false_imp_iff, implies_true, and_true]
      exact ⟨.truth (by decide) true, .natural (by decide) 250, .natural (by decide) 7,
        .natural (by decide) 9⟩
    have wanted : Describes (entries.map memberOf) ⟨none, 9, 7, true⟩ := by
      refine describes_iff.mpr ⟨by decide, fun key absent => ?_⟩
      cases key with
      | bufferLength => rfl
      | bufferCount | asyncBuffers | swap => exact absurd (by decide) absent
    obtain ⟨options, read, describes⟩ := documents_read.read _ (entries.map memberOf)
      (Json.Spelling.objectText_renderObject right) (by decide) (nodup_known_iff.mp (by decide))
      wanted.allows
    exact read.trans (congrArg some (describes.unique wanted))
  · have right : ∀ spelling ∈ [Json.Spelling.mk "asyncBuffs".toList (.natural 1) (Numeral.digits 1),
        ⟨"async_buffs".toList, .natural 2, Numeral.digits 2⟩], spelling.Right := by
      simp only [List.forall_mem_cons, List.not_mem_nil, false_imp_iff, implies_true, and_true]
      exact ⟨.natural (by decide) 1, .natural (by decide) 2⟩
    refine documents_read.refused _ _ (Json.Spelling.objectText_renderObject right) ?_
    intro distinct
    exact (List.pairwise_cons.mp distinct).1 _ List.mem_cons_self .asyncBuffers
      ⟨"asyncBuffs", by decide, rfl⟩ ⟨"async_buffs", by decide, rfl⟩

/-- An unknown key is passed over, a key may be escaped, and the spelling of the number of buffers
in flight may be the second one. -/
example : parse?
    "\x7b \"async_buffs\" : 7, \"rate\": [1, -2e5],\n\"b\\u0075ffers\":9 \x7d".toList =
      some ⟨none, 9, 7, false⟩ := by
  decide

end StreamOptions

end DacStream
