import Marginalia.Proofs.Json.Numbers
import Marginalia.Proofs.Json.Quoting

/-! # Wire values there and back
What is written as a wire value is read as that value (`read?_render`), in every dialect. This holds of the
values that the wire takes exactly (`Exact`): all numbers among them are integers, and no object has two
members of one name. Their texts are plain ASCII on one line (`Exact.isPlain_of_mem`). -/

namespace Marginalia.Json

open Text

/-! ## Values that the wire takes exactly -/

/-- A value whose numbers are integers and whose objects name each member once. -/
inductive Exact : Json → Prop where
  /-- No value. -/
  | null : Exact .null
  /-- A truth value. -/
  | bool (value : Bool) : Exact (.bool value)
  /-- An integer of any size. -/
  | int (value : Int) : Exact (.int value)
  /-- A text. -/
  | str (value : String) : Exact (.str value)
  /-- A list of such values. -/
  | list {items : List Json} (each : ∀ item ∈ items, Exact item) : Exact (.list items)
  /-- Members with such values, each under a name of its own. -/
  | object {members : List (String × Json)} (named : (members.map (·.1)).Nodup)
      (each : ∀ member ∈ members, Exact member.2) : Exact (.object members)

/-- A character with which the text of a value may start. -/
def Leads (c : Char) : Prop := isGap c = false ∧ c ≠ ']' ∧ c ≠ '\x7d'

/-- The text of an integer starts with a digit, or with a minus and a digit. -/
theorem exists_toString_cons (value : Int) : ∃ c others, (toString value).toList = c :: others ∧
    (c.isDigit = true ∨ c = '-' ∧ ∃ d more, others = d :: more ∧ d.isDigit = true) := by
  obtain ⟨c, others, same⟩ :=
    List.exists_cons_of_ne_nil (Nat.toDigits_ne_nil : Nat.toDigits 10 value.natAbs ≠ [])
  have digit : c.isDigit = true :=
    Nat.isDigit_of_mem_toDigits (by decide) (by decide) (same ▸ List.mem_cons_self)
  rw [toList_toString_int, same]
  by_cases below : value < 0
  · rw [if_pos below]
    exact ⟨'-', c :: others, rfl, .inr ⟨rfl, c, others, rfl, digit⟩⟩
  · rw [if_neg below]
    exact ⟨c, others, rfl, .inl digit⟩

/-- A digit is none of some other characters. -/
theorem ne_of_isDigit {c d : Char} (digit : c.isDigit = true) (other : d.isDigit = false) : c ≠ d :=
  ne_of_apply_ne Char.isDigit (by rw [digit, other]; decide)

/-- The text of a value starts with a character of its own. -/
theorem Exact.exists_leads {value : Json} (exact : value.Exact) :
    ∃ c others, value.render = c :: others ∧ Leads c := by
  have leads {c : Char} (gap : isGap c = false) (bracket : c ≠ ']') (brace : c ≠ '\x7d') : Leads c :=
    ⟨gap, bracket, brace⟩
  cases exact with
  | null => exact ⟨'n', _, rfl, leads rfl (by decide) (by decide)⟩
  | bool value =>
    cases value with
    | false => exact ⟨'f', _, rfl, leads rfl (by decide) (by decide)⟩
    | true => exact ⟨'t', _, rfl, leads rfl (by decide) (by decide)⟩
  | int value =>
    obtain ⟨c, others, same, digit | ⟨rfl, -⟩⟩ := exists_toString_cons value
    · refine ⟨c, others, same, leads ?_ (ne_of_isDigit digit (by decide)) (ne_of_isDigit digit (by decide))⟩
      simp only [isGap, Bool.or_eq_false_iff, beq_eq_false_iff_ne]
      exact ⟨⟨⟨ne_of_isDigit digit (by decide), ne_of_isDigit digit (by decide)⟩,
        ne_of_isDigit digit (by decide)⟩, ne_of_isDigit digit (by decide)⟩
    · exact ⟨'-', others, same, leads rfl (by decide) (by decide)⟩
  | str value => exact ⟨'"', _, rfl, leads rfl (by decide) (by decide)⟩
  | list => exact ⟨'[', _, rfl, leads rfl (by decide) (by decide)⟩
  | object => exact ⟨'\x7b', _, rfl, leads rfl (by decide) (by decide)⟩

/-- Nothing is skipped in front of a character that is no gap. -/
theorem skipGap_cons {c : Char} (noGap : isGap c = false) (rest : List Char) : skipGap (c :: rest) = c :: rest :=
  List.dropWhile_cons_of_neg (by simp [noGap])

/-- Nothing in front of the text of a value is skipped. -/
theorem Exact.skipGap_render {value : Json} (exact : value.Exact) (rest : List Char) :
    skipGap (value.render ++ rest) = value.render ++ rest := by
  obtain ⟨c, others, same, noGap, -⟩ := exact.exists_leads
  rw [same, List.cons_append, skipGap_cons noGap]

/-- The text of a list of values starts with the text of the first one. -/
theorem exists_renderItems_cons (item : Json) (items : List Json) :
    ∃ more, renderItems (item :: items) = item.render ++ more := by
  cases items with
  | nil => exact ⟨[], (List.append_nil _).symm⟩
  | cons second items => exact ⟨_, (renderItems.eq_3 _ _ (List.cons_ne_nil _ _)).trans (List.append_assoc ..)⟩

/-- The text of some members starts with the quoted name of the first one and its value. -/
theorem exists_renderMembers_cons (name : String) (value : Json) (members : List (String × Json)) :
    ∃ more, renderMembers ((name, value) :: members) =
      renderText name ++ ':' :: ' ' :: (value.render ++ more) := by
  have colon : ": ".toList = [':', ' '] := rfl
  cases members with
  | nil => exact ⟨[], by rw [renderMembers, colon]; simp⟩
  | cons second members =>
    refine ⟨", ".toList ++ renderMembers (second :: members), ?_⟩
    rw [renderMembers.eq_3 _ _ _ (List.cons_ne_nil _ _), colon]
    simp

/-! ## Values without parts -/

/-- What may stand behind the text of a value: the text goes on with nothing that belongs to it. -/
theorem stops_comma (rest : List Char) : Stops (',' :: rest) :=
  stops_cons (by decide) (by decide) (by decide) rest

theorem stops_bracket (rest : List Char) : Stops (']' :: rest) :=
  stops_cons (by decide) (by decide) (by decide) rest

theorem stops_brace (rest : List Char) : Stops ('\x7d' :: rest) :=
  stops_cons (by decide) (by decide) (by decide) rest

section Reading

variable {dialect : Dialect} {fuel : Nat} {rest : List Char}

/-- An integer is no word of any dialect. -/
theorem readWord_toString (dialect : Dialect) (value : Int) (rest : List Char) :
    readWord dialect ((toString value).toList ++ rest) = none := by
  obtain ⟨c, others, same, first⟩ := exists_toString_cons value
  have words : ∀ word ∈ dialect.words, ∃ d more, word.1.toList = d :: more ∧ d.isDigit = false ∧
      (d = '-' → more.head? = some 'I') := by
    intro word member
    have known : word ∈ (⟨true⟩ : Dialect).words := by
      obtain ⟨nonFinite⟩ := dialect
      cases nonFinite with
      | true => exact member
      | false => exact List.mem_append_left _ (by simpa [Dialect.words] using member)
    simp only [Dialect.words, List.mem_append, List.mem_cons, List.not_mem_nil, or_false, if_true] at known
    rcases known with (rfl | rfl | rfl) | rfl | rfl | rfl <;> exact ⟨_, _, rfl, by decide, by decide⟩
  rw [readWord, List.findSome?_eq_none_iff]
  intro word member
  obtain ⟨d, more, text, noDigit, sign⟩ := words word member
  rw [Option.map_eq_none_iff, same, List.cons_append]
  cases read : expect word.1.toList (c :: (others ++ rest)) with
  | none => rfl
  | some after =>
    rw [expect_eq_some_iff, text] at read
    obtain ⟨rfl, behind⟩ := List.cons.inj read
    rcases first with digit | ⟨rfl, e, others, rfl, digit⟩
    · rw [digit] at noDigit
      cases noDigit
    · -- Behind a minus a word goes on with a letter and an integer with a digit.
      obtain ⟨tail, rfl⟩ := List.head?_eq_some_iff.mp (sign rfl)
      exact absurd (List.cons.inj behind).1 (ne_of_isDigit digit (by decide))

/-- A text that starts with no quote and no bracket is read as a word or a number. -/
theorem readValue_of_other {c : Char} (quote : c ≠ '"') (bracket : c ≠ '[') (brace : c ≠ '\x7b') :
    readValue dialect (fuel + 1) (c :: rest) =
      (readWord dialect (c :: rest)).or (readNumber (c :: rest)) :=
  readValue.eq_5 _ _ _ (fun _ same => quote (List.cons.inj same).1)
    (fun _ same => bracket (List.cons.inj same).1) fun _ same => brace (List.cons.inj same).1

/-- An integer is read as a value. -/
theorem readValue_int (value : Int) (stops : Stops rest) :
    readValue dialect (fuel + 1) ((toString value).toList ++ rest) = some (.int value, rest) := by
  have noWord := readWord_toString dialect value rest
  have number := readNumber_toString value stops
  obtain ⟨c, others, same, first⟩ := exists_toString_cons value
  have other {d : Char} (letter : d.isDigit = false) (noMinus : d ≠ '-') : c ≠ d := by
    rcases first with digit | ⟨rfl, -⟩
    · exact ne_of_isDigit digit letter
    · exact noMinus.symm
  rw [same, List.cons_append] at noWord number ⊢
  rw [readValue_of_other (other (by decide) (by decide)) (other (by decide) (by decide))
    (other (by decide) (by decide)), noWord, number, Option.none_or]

/-- A word that is a value is read as that value. -/
theorem readValue_atom {value : Json} (atom : value = .null ∨ ∃ truth, value = .bool truth) :
    readValue dialect (fuel + 1) (value.render ++ rest) = some (value, rest) := by
  rcases atom with rfl | ⟨_ | _, rfl⟩
  · exact readValue_of_other (by decide) (by decide) (by decide)
  · exact readValue_of_other (by decide) (by decide) (by decide)
  · exact readValue_of_other (by decide) (by decide) (by decide)

/-- A quoted text is read as a value. -/
theorem readValue_str (value : String) :
    readValue dialect (fuel + 1) (renderText value ++ rest) = some (.str value, rest) := by
  obtain ⟨opened, read⟩ := readText_renderText value rest
  rw [opened, readValue, read]
  rfl

/-! ## Lists and objects -/

/-- Where there is room for the text of a value, there is some. -/
theorem Exact.exists_room {value : Json} (exact : value.Exact) (room : value.render.length ≤ fuel) :
    ∃ left, fuel = left + 1 := by
  obtain ⟨c, others, same, -⟩ := exact.exists_leads
  rw [same, List.length_cons] at room
  exact Nat.exists_eq_succ_of_ne_zero (by omega)

/-- With enough room the text of a value is read as that value. -/
def ReadsBack (dialect : Dialect) (value : Json) : Prop :=
  ∀ fuel rest, value.render.length ≤ fuel → Stops rest →
    readValue dialect fuel (value.render ++ rest) = some (value, rest)

/-- The values of a list are read one after the other. -/
theorem readItems_renderItems {item : Json} {items : List Json} (exact : ∀ value ∈ item :: items, value.Exact)
    (each : ∀ value ∈ item :: items, ReadsBack dialect value)
    (room : (renderItems (item :: items)).length < fuel) :
    readItems dialect fuel (renderItems (item :: items) ++ ']' :: rest) = some (item :: items, rest) := by
  obtain ⟨fuel, rfl⟩ := Nat.exists_eq_succ_of_ne_zero (Nat.ne_of_gt (Nat.zero_lt_of_lt room))
  induction items generalizing item fuel with
  | nil =>
    have read := each item List.mem_cons_self fuel (']' :: rest) (Nat.le_of_lt_succ room) (stops_bracket rest)
    rw [renderItems, readItems, read]
    rfl
  | cons second items ih =>
    obtain ⟨-, exactItems⟩ := List.forall_mem_cons.mp exact
    obtain ⟨reads, others⟩ := List.forall_mem_cons.mp each
    have comma : ", ".toList = [',', ' '] := rfl
    rw [renderItems.eq_3 _ _ (List.cons_ne_nil _ _), comma] at room ⊢
    simp only [List.length_append, List.length_cons, List.length_nil] at room
    -- The comma is longer than nothing, so there is room for the first value and a step for the others.
    obtain ⟨left, rfl⟩ := Nat.exists_eq_succ_of_ne_zero (by omega : fuel ≠ 0)
    have read := reads (left + 1) (',' :: ' ' :: (renderItems (second :: items) ++ ']' :: rest)) (by omega)
      (stops_comma _)
    have behind := ih exactItems others left (by omega)
    have gap : skipGap (' ' :: (renderItems (second :: items) ++ ']' :: rest)) =
        renderItems (second :: items) ++ ']' :: rest := by
      obtain ⟨more, starts⟩ := exists_renderItems_cons second items
      rw [starts, List.append_assoc]
      exact (exactItems second List.mem_cons_self).skipGap_render _
    have parts : item.render ++ [',', ' '] ++ renderItems (second :: items) ++ ']' :: rest =
        item.render ++ ',' :: ' ' :: (renderItems (second :: items) ++ ']' :: rest) := by simp
    rw [parts, readItems, read]
    simp only [Option.bind_eq_bind, Option.bind_some, skipGap_cons (show isGap ',' = false from rfl), gap,
      behind, Option.pure_def]

/-- Where each name is given once, a member has none of the names in front of it. -/
theorem not_mem_of_nodup {before members : List (String × Json)} {name : String} {value : Json}
    (named : ((before ++ (name, value) :: members).map (·.1)).Nodup) : name ∉ before.map (·.1) := by
  rw [List.map_append, List.map_cons, List.nodup_append] at named
  obtain ⟨-, -, apart⟩ := named
  intro earlier
  exact apart name earlier name List.mem_cons_self rfl

/-- A member of a new name comes last. -/
theorem setMember_of_fresh {members : List (String × Json)} {name : String} (value : Json)
    (fresh : name ∉ members.map (·.1)) : setMember members name value = members ++ [(name, value)] := by
  induction members with
  | nil => rfl
  | cons first members ih =>
    rw [List.map_cons, List.mem_cons, not_or] at fresh
    rw [setMember, if_neg (Ne.symm fresh.1), ih fresh.2, List.cons_append]

/-- What is read of an object behind some members. -/
def readMembersBehind (dialect : Dialect) (fuel : Nat) (members : List (String × Json)) (rest : List Char) :
    Option (List (String × Json) × List Char) :=
  match skipGap rest with
  | ',' :: rest => readMembers dialect fuel members (skipGap rest)
  | '\x7d' :: after => some (members, after)
  | _ => none

/-- The first member of a text is read, and the text behind it decides how the object goes on. -/
theorem readMembers_member {name : String} {value : Json} {before : List (String × Json)}
    (exact : value.Exact) (reads : ReadsBack dialect value) (room : value.render.length ≤ fuel)
    (stops : Stops rest) (fresh : name ∉ before.map (·.1)) :
    readMembers dialect (fuel + 1) before (renderText name ++ ':' :: ' ' :: (value.render ++ rest)) =
      readMembersBehind dialect fuel (before ++ [(name, value)]) rest := by
  obtain ⟨opened, read⟩ := readText_renderText name (':' :: ' ' :: (value.render ++ rest))
  have gap : skipGap (' ' :: (value.render ++ rest)) = value.render ++ rest := exact.skipGap_render rest
  have quote (text : List Char) : expect ['"'] ('"' :: text) = some text := rfl
  have colon (text : List Char) : expect [':'] (':' :: text) = some text := rfl
  rw [opened, readMembers, quote]
  simp only [Option.bind_eq_bind, Option.bind_some, read, skipGap_cons (show isGap ':' = false from rfl), colon,
    gap, reads fuel rest room stops, setMember_of_fresh value fresh, Option.pure_def]
  rfl

/-- The members of an object are read one after the other, behind those that were read before. -/
theorem readMembers_renderMembers {member : String × Json} {members before : List (String × Json)}
    (named : ((before ++ member :: members).map (·.1)).Nodup) (exact : ∀ entry ∈ member :: members, entry.2.Exact)
    (each : ∀ entry ∈ member :: members, ReadsBack dialect entry.2)
    (room : (renderMembers (member :: members)).length < fuel) :
    readMembers dialect fuel before (renderMembers (member :: members) ++ '\x7d' :: rest) =
      some (before ++ member :: members, rest) := by
  have colon : ": ".toList = [':', ' '] := rfl
  have comma : ", ".toList = [',', ' '] := rfl
  obtain ⟨fuel, rfl⟩ := Nat.exists_eq_succ_of_ne_zero (Nat.ne_of_gt (Nat.zero_lt_of_lt room))
  induction members generalizing member before fuel with
  | nil =>
    obtain ⟨name, value⟩ := member
    have fresh := not_mem_of_nodup named
    rw [renderMembers, colon] at room ⊢
    simp only [List.length_append, List.length_cons, List.length_nil] at room
    have fits : value.render.length ≤ fuel := by omega
    have parts : renderText name ++ [':', ' '] ++ value.render ++ '\x7d' :: rest =
        renderText name ++ ':' :: ' ' :: (value.render ++ '\x7d' :: rest) := by simp
    rw [parts, readMembers_member (exact _ List.mem_cons_self) (each _ List.mem_cons_self) fits
      (stops_brace rest) fresh]
    rfl
  | cons second members ih =>
    obtain ⟨name, value⟩ := member
    have fresh := not_mem_of_nodup named
    -- The induction is over the members behind, with one more in front of them each time.
    have regrouped : before ++ (name, value) :: second :: members = before ++ [(name, value)] ++ second :: members := by
      simp
    obtain ⟨exactValue, exactMembers⟩ := List.forall_mem_cons.mp exact
    obtain ⟨reads, others⟩ := List.forall_mem_cons.mp each
    rw [renderMembers.eq_3 _ _ _ (List.cons_ne_nil _ _), colon, comma] at room ⊢
    simp only [List.length_append, List.length_cons, List.length_nil] at room
    obtain ⟨left, rfl⟩ := Nat.exists_eq_succ_of_ne_zero (by omega : fuel ≠ 0)
    have fits : value.render.length ≤ left + 1 := by omega
    have parts : renderText name ++ [':', ' '] ++ value.render ++ [',', ' '] ++ renderMembers (second :: members) ++
        '\x7d' :: rest = renderText name ++ ':' :: ' ' :: (value.render ++
          ',' :: ' ' :: (renderMembers (second :: members) ++ '\x7d' :: rest)) := by simp
    have gap : skipGap (' ' :: (renderMembers (second :: members) ++ '\x7d' :: rest)) =
        renderMembers (second :: members) ++ '\x7d' :: rest := by
      obtain ⟨more, starts⟩ := exists_renderMembers_cons second.1 second.2 members
      rw [starts, renderText]
      rfl
    have behind := ih (regrouped ▸ named) exactMembers others left (by omega)
    rw [parts, readMembers_member exactValue reads fits (stops_comma _) fresh, readMembersBehind,
      skipGap_cons (show isGap ',' = false from rfl), regrouped, ← behind]
    simp only [gap]

end Reading

/-! ## Whole texts -/

/-- The text of a value is read as that value, whatever stands behind it. -/
theorem readsBack (dialect : Dialect) {value : Json} (exact : value.Exact) : ReadsBack dialect value := by
  induction exact with
  | null =>
    intro fuel rest room _
    obtain ⟨left, rfl⟩ := Exact.null.exists_room room
    exact readValue_atom (.inl rfl)
  | bool truth =>
    intro fuel rest room _
    obtain ⟨left, rfl⟩ := (Exact.bool truth).exists_room room
    exact readValue_atom (.inr ⟨truth, rfl⟩)
  | int value =>
    intro fuel rest room stops
    obtain ⟨left, rfl⟩ := (Exact.int value).exists_room room
    exact readValue_int value stops
  | str value =>
    intro fuel rest room _
    obtain ⟨left, rfl⟩ := (Exact.str value).exists_room room
    exact readValue_str value
  | @list items each ih =>
    intro fuel rest room _
    have written : (Json.list items).render = '[' :: (renderItems items ++ [']']) := rfl
    rw [written, List.length_cons, List.length_append, List.length_singleton] at room
    obtain ⟨fuel, rfl⟩ := Nat.exists_eq_succ_of_ne_zero (by omega : fuel ≠ 0)
    rw [written, List.cons_append, List.append_assoc, List.singleton_append]
    cases items with
    | nil => rfl
    | cons item items =>
      have read : readItems dialect fuel (renderItems (item :: items) ++ ']' :: rest) = some (item :: items, rest) :=
        readItems_renderItems each ih (Nat.lt_of_succ_le (Nat.le_of_succ_le_succ room))
      obtain ⟨more, starts⟩ := exists_renderItems_cons item items
      obtain ⟨c, others, first, noGap, noBracket, -⟩ := (each item List.mem_cons_self).exists_leads
      -- The first character is no closing bracket, so the list is not taken for an empty one.
      rw [starts, first, List.cons_append, List.cons_append] at read ⊢
      rw [readValue, skipGap_cons noGap]
      split
      · next closes => exact absurd (List.cons.inj closes).1 noBracket
      · rw [read, Option.map_some]
  | @object members named each ih =>
    intro fuel rest room _
    have written : (Json.object members).render = '\x7b' :: (renderMembers members ++ ['\x7d']) := rfl
    rw [written, List.length_cons, List.length_append, List.length_singleton] at room
    obtain ⟨fuel, rfl⟩ := Nat.exists_eq_succ_of_ne_zero (by omega : fuel ≠ 0)
    rw [written, List.cons_append, List.append_assoc, List.singleton_append]
    cases members with
    | nil => rfl
    | cons member members =>
      have read : readMembers dialect fuel [] (renderMembers (member :: members) ++ '\x7d' :: rest) =
          some ([] ++ member :: members, rest) :=
        readMembers_renderMembers named each ih (Nat.lt_of_succ_le (Nat.le_of_succ_le_succ room))
      obtain ⟨more, starts⟩ := exists_renderMembers_cons member.1 member.2 members
      rw [starts, renderText, List.cons_append, List.cons_append] at read ⊢
      rw [readValue, skipGap_cons (by decide)]
      split
      · next closes => exact absurd (List.cons.inj closes).1 (by decide)
      · rw [read, Option.map_some, List.nil_append]

/-- **What is written is read.** -/
theorem read?_render (dialect : Dialect) {value : Json} (exact : value.Exact) :
    read? dialect value.render = some value := by
  have read := readsBack dialect exact (value.render.length + 1) [] (Nat.le_succ _) stops_nil
  have gap := exact.skipGap_render []
  rw [List.append_nil] at read gap
  rw [read?, gap, read]
  rfl

/-! ## Plain texts -/

theorem isPlain_of_mem_toString (value : Int) {c : Char} (member : c ∈ (toString value).toList) :
    isPlain c = true := by
  have digit : ∀ d ∈ Nat.toDigits 10 value.natAbs, isPlain d = true := by
    intro d inside
    have isDigit : d.isDigit = true := Nat.isDigit_of_mem_toDigits (by decide) (by decide) inside
    obtain ⟨low, high⟩ := Char.isDigit_iff_toNat.mp isDigit
    exact isPlain_iff.mpr ⟨Nat.le_trans (by decide) low, Nat.le_trans high (by decide)⟩
  rw [toList_toString_int] at member
  rcases List.mem_append.mp member with sign | inside
  · split at sign
    · rw [List.mem_singleton.mp sign]
      decide
    · exact absurd sign List.not_mem_nil
  · exact digit c inside

/-- A character of a list of values stands in one of them or between two of them. -/
theorem mem_renderItems {items : List Json} {c : Char} (member : c ∈ renderItems items) :
    c ∈ ", ".toList ∨ ∃ item ∈ items, c ∈ item.render := by
  induction items with
  | nil => exact absurd member List.not_mem_nil
  | cons item items ih =>
    cases items with
    | nil => exact .inr ⟨item, List.mem_cons_self, member⟩
    | cons second items =>
      rw [renderItems.eq_3 _ _ (List.cons_ne_nil _ _), List.mem_append, List.mem_append] at member
      rcases member with (inside | between) | behind
      · exact .inr ⟨item, List.mem_cons_self, inside⟩
      · exact .inl between
      · exact (ih behind).imp_right fun ⟨other, later, inside⟩ => ⟨other, List.mem_cons_of_mem _ later, inside⟩

/-- A character of some members stands in the name or the value of one of them or between these. -/
theorem mem_renderMembers {members : List (String × Json)} {c : Char} (member : c ∈ renderMembers members) :
    c ∈ ", ".toList ∨ c ∈ ": ".toList ∨
      ∃ entry ∈ members, c ∈ renderText entry.1 ∨ c ∈ entry.2.render := by
  induction members with
  | nil => exact absurd member List.not_mem_nil
  | cons first members ih =>
    obtain ⟨name, value⟩ := first
    cases members with
    | nil =>
      rw [renderMembers, List.mem_append, List.mem_append] at member
      rcases member with (inName | between) | inValue
      · exact .inr (.inr ⟨_, List.mem_cons_self, .inl inName⟩)
      · exact .inr (.inl between)
      · exact .inr (.inr ⟨_, List.mem_cons_self, .inr inValue⟩)
    | cons second members =>
      rw [renderMembers.eq_3 _ _ _ (List.cons_ne_nil _ _)] at member
      simp only [List.mem_append] at member
      rcases member with (((inName | between) | inValue) | comma) | behind
      · exact .inr (.inr ⟨_, List.mem_cons_self, .inl inName⟩)
      · exact .inr (.inl between)
      · exact .inr (.inr ⟨_, List.mem_cons_self, .inr inValue⟩)
      · exact .inl comma
      · exact (ih behind).imp_right (Or.imp_right fun ⟨entry, later, inside⟩ =>
          ⟨entry, List.mem_cons_of_mem _ later, inside⟩)

/-- The text of a value is plain ASCII. -/
theorem Exact.isPlain_of_mem {value : Json} (exact : value.Exact) :
    ∀ c ∈ value.render, isPlain c = true := by
  have comma : ∀ c ∈ ", ".toList, isPlain c = true := List.all_eq_true.mp rfl
  have colon : ∀ c ∈ ": ".toList, isPlain c = true := List.all_eq_true.mp rfl
  induction exact with
  | null => exact List.all_eq_true.mp rfl
  | bool truth => cases truth <;> exact List.all_eq_true.mp rfl
  | int value => exact fun c member => isPlain_of_mem_toString value member
  | str value => exact fun c member => isPlain_of_mem_renderText member
  | @list items each ih =>
    intro c member
    have parts : c = '[' ∨ c ∈ renderItems items ∨ c = ']' := by simpa [render] using member
    rcases parts with rfl | inside | rfl
    · decide
    · rcases mem_renderItems inside with between | ⟨item, found, inItem⟩
      · exact comma c between
      · exact ih item found c inItem
    · decide
  | @object members named each ih =>
    intro c member
    have parts : c = '\x7b' ∨ c ∈ renderMembers members ∨ c = '\x7d' := by simpa [render] using member
    rcases parts with rfl | inside | rfl
    · decide
    · rcases mem_renderMembers inside with between | between | ⟨entry, found, inName | inValue⟩
      · exact comma c between
      · exact colon c between
      · exact isPlain_of_mem_renderText inName
      · exact ih entry found c inValue
    · decide

end Marginalia.Json
