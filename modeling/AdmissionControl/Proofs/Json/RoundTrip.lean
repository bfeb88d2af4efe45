import AdmissionControl.Json.Printer
import AdmissionControl.Json.Reader

namespace AdmissionControl

namespace Json

/-- A text with which no number goes on. -/
def Delimits (rest : List Char) : Prop :=
  ∀ c ∈ rest.head?, c.isDigit = false ∧ c ≠ '.' ∧ c ≠ 'e' ∧ c ≠ 'E'

def Keeps (value : Int) : Prop := -(UInt64.size / 2 : Nat) ≤ value ∧ value ≤ maxInteger

/-- A tree that can be read back: no decimals, nothing broken, and no deeper than `depth`. -/
inductive Plain : Nat → Json → Prop
  | null {depth : Nat} : Plain depth .null
  | bool {depth : Nat} (value : Bool) : Plain depth (.bool value)
  | integer {depth : Nat} {value : Int} (kept : Keeps value) : Plain depth (.integer value)
  | string {depth : Nat} (value : String) : Plain depth (.string value)
  | array {depth : Nat} {items : List Json} (plain : ∀ item ∈ items, Plain depth item) :
    Plain (depth + 1) (.array items .closed)
  | object {depth : Nat} {members : List (String × Json)}
    (plain : ∀ member ∈ members, Plain depth member.2) : Plain (depth + 1) (.object members .closed)

section Strings

private theorem hexDigit?_digitChar :
    ∀ digit < 16, hexDigit? (Nat.digitChar digit) = some digit := by
  decide

private theorem readString_control (read : List Char) {c : Char} (control : c < ' ')
    (rest : List Char) :
    readString read ('\\' :: 'u' :: '0' :: '0' :: Nat.digitChar (c.toNat / 16) ::
      Nat.digitChar (c.toNat % 16) :: rest) = readString (c :: read) rest := by
  have small : c.toNat < 32 := control
  have unit : hexUnit? '0' '0' (Nat.digitChar (c.toNat / 16)) (Nat.digitChar (c.toNat % 16)) =
      some c.toNat := by
    have zero : hexDigit? '0' = some 0 := rfl
    simp only [hexUnit?, zero, hexDigit?_digitChar (c.toNat / 16) (by omega),
      hexDigit?_digitChar (c.toNat % 16) (by omega), Option.bind_eq_bind, Option.bind_some,
      Option.some.injEq]
    omega
  have plain : isTrailing c.toNat = false ∧ isLeading c.toNat = false := by
    simp only [isTrailing, isLeading, Bool.and_eq_false_iff, decide_eq_false_iff_not]
    omega
  rw [readString]
  simp [unit, plain, Char.ofNat_toNat]

private theorem readString_escaped (read : List Char) (c : Char) (rest : List Char) :
    readString read (escaped c ++ rest) = readString (c :: read) rest := by
  unfold escaped
  cases listed : escapeLetters.lookup c with
  | some letter =>
    obtain ⟨before, after, table, -⟩ := List.lookup_eq_some_iff.mp listed
    have member : (c, letter) ∈ escapeLetters := by simp [table]
    have apart : letter ≠ 'u' := by
      rintro rfl
      simp [escapeLetters] at member
    simp only [List.cons_append, List.nil_append]
    rw [readString.eq_6 _ _ _ (fun _ _ _ _ _ same _ => apart same) apart,
      unescape?_of_mem member]
  | none =>
    have unlisted := List.lookup_eq_none_iff.mp listed
    by_cases shown : ' ' ≤ c
    · have quote : c ≠ '"' := by simpa using unlisted ('"', '"') (by simp [escapeLetters])
      have backslash : c ≠ '\\' := by simpa using unlisted ('\\', '\\') (by simp [escapeLetters])
      simp only [shown, if_true, List.cons_append, List.nil_append]
      rw [readString.eq_7 _ _ _ quote (fun same => absurd same backslash)
        (fun _ _ _ _ _ same => absurd same backslash) (fun _ same => absurd same backslash)
        (fun _ _ same => absurd same backslash), if_neg (Char.not_lt.mpr shown)]
    · simp only [shown, if_false, List.cons_append, List.nil_append]
      exact readString_control read (Char.not_le.mp shown) rest

private theorem readString_spelling (read cs rest : List Char) :
    readString read (cs.flatMap escaped ++ '"' :: rest) =
      .ok (String.ofList (read.reverse ++ cs), rest) := by
  induction cs generalizing read with
  | nil => simp [readString]
  | cons c cs ih =>
    rw [List.flatMap_cons, List.append_assoc, readString_escaped, ih]
    simp

private theorem readString_quoted (text : String) (rest : List Char) :
    readString [] (text.toList.flatMap escaped ++ '"' :: rest) = .ok (text, rest) := by
  rw [readString_spelling]
  simp

end Strings

section Numbers

private theorem head_toDigits {value : Nat} (positive : 0 < value) :
    (Nat.toDigits 10 value).head? ≠ some '0' := by
  induction value using Nat.strongRecOn with
  | ind value ih =>
    rw [Nat.toDigits_eq_if (by decide)]
    split
    · next single =>
      have digits : ∀ digit < 10, 0 < digit → Nat.digitChar digit ≠ '0' := by decide
      simpa using digits value single positive
    · next several =>
      rw [List.head?_append, Option.or_of_isSome (by simp [Nat.toDigits_ne_nil])]
      exact ih (value / 10) (by omega) (by omega)

private theorem le_ofDigitChars (start : Nat) (digits : List Char) :
    start ≤ Nat.ofDigitChars 10 digits start := by
  induction digits generalizing start with
  | nil => exact Nat.le_refl _
  | cons digit digits ih =>
    rw [Nat.ofDigitChars_cons]
    exact Nat.le_trans (by omega) (ih _)

/-- Digits whose number fits into a word are all taken. -/
theorem significand_fits {start : Nat} {digits : List Char}
    (fits : Nat.ofDigitChars 10 digits start ≤ maxInteger) :
    significand start digits = (Nat.ofDigitChars 10 digits start, 0) := by
  induction digits generalizing start with
  | nil => rfl
  | cons digit digits ih =>
    rw [Nat.ofDigitChars_cons] at fits ⊢
    have next : start * 10 + digitValue digit = 10 * start + (digit.toNat - '0'.toNat) := by
      rw [digitValue, Nat.mul_comm]
    have small := Nat.le_trans (le_ofDigitChars _ digits) fits
    have others := ih fits
    rw [significand] at others ⊢
    rw [List.foldl_cons, ← others]
    simp only [next, small, and_self, if_true]

/-- The digits of an integer that fits into a word are read up to the text behind them. -/
theorem readNumber_toDigits (negative : Bool) {value : Nat} (fits : value ≤ maxInteger)
    {rest : List Char} (delimits : Delimits rest) :
    readNumber negative (Nat.toDigits 10 value ++ rest) = ofInteger negative value rest := by
  have digits : ∀ c ∈ Nat.toDigits 10 value, c.isDigit = true := fun c member =>
    Nat.isDigit_of_mem_toDigits (by decide) (by decide) member
  have stops : rest.takeWhile Char.isDigit = [] ∧ rest.dropWhile Char.isDigit = rest := by
    cases rest with
    | nil => exact ⟨rfl, rfl⟩
    | cons c rest => simp [(delimits c rfl).1]
  have taken : (Nat.toDigits 10 value ++ rest).takeWhile Char.isDigit = Nat.toDigits 10 value := by
    rw [List.takeWhile_append_of_pos digits, stops.1, List.append_nil]
  have left : (Nat.toDigits 10 value ++ rest).dropWhile Char.isDigit = rest := by
    rw [List.dropWhile_append_of_pos digits, stops.2]
  have counted : significand 0 (Nat.toDigits 10 value) = (value, 0) := by
    rw [significand_fits] <;> rw [Nat.ofDigitChars_ten_toDigits]
    exact fits
  simp only [readNumber, taken, left]
  split
  · next empty => exact absurd empty Nat.toDigits_ne_nil
  · next empty _ => exact absurd empty Nat.toDigits_ne_nil
  · next zeros =>
    have zero : value = 0 := Nat.eq_zero_of_not_pos fun positive =>
      head_toDigits positive (by simp [zeros])
    simp [zero] at zeros
  · simp only [counted]
    split
    · exact absurd rfl (delimits _ rfl).2.1
    · exact absurd rfl (delimits _ rfl).2.2.1
    · exact absurd rfl (delimits _ rfl).2.2.2
    · rfl
    · next none_left _ _ _ _ => exact (none_left rfl).elim

private theorem ofInteger_negative {value : Nat} (positive : 0 < value)
    (kept : value ≤ UInt64.size / 2)
    (rest : List Char) : ofInteger true value rest = .ok (.integer (-value), rest) := by
  simp [ofInteger, positive, kept]

private theorem isBlank_of_isDigit {c : Char} (digit : c.isDigit = true) : isBlank c = false := by
  simp only [isBlank, Bool.or_eq_false_iff, beq_eq_false_iff_ne]
  refine ⟨⟨⟨?_, ?_⟩, ?_⟩, ?_⟩ <;> rintro rfl <;> exact absurd digit (by decide)

private theorem skipBlanks_cons {c : Char} (shown : isBlank c = false) (text : List Char) :
    skipBlanks (c :: text) = c :: text :=
  List.dropWhile_cons_of_neg (by simp [shown])

private theorem readValue_digit (depth : Nat) {c : Char} (digit : c.isDigit = true)
    (rest : List Char) :
    readValue depth (c :: rest) = .ofExcept (readNumber false (c :: rest)) := by
  rw [readValue, skipBlanks_cons (isBlank_of_isDigit digit)]
  split
  case h_1 empty => cases empty
  case h_9 same => cases same; rw [if_pos digit]
  all_goals
    next same =>
      cases same
      exact absurd digit (by decide)

private theorem toList_toString (value : Nat) : (toString value).toList = Nat.toDigits 10 value :=
  (congrArg String.toList Nat.toString_eq_ofList_toDigits).trans String.toList_ofList

private theorem write_ofNat (value : Nat) :
    write (.integer (.ofNat value)) = Nat.toDigits 10 value := by
  rw [write]
  exact toList_toString value

private theorem write_negSucc (value : Nat) :
    write (.integer (.negSucc value)) = '-' :: Nat.toDigits 10 (value + 1) := by
  have signed : toString (Int.negSucc value) = "-" ++ toString (value + 1) := rfl
  rw [write, signed, String.toList_append, toList_toString]
  rfl

private theorem toDigits_cons (value : Nat) :
    ∃ first others, Nat.toDigits 10 value = first :: others ∧ first.isDigit = true := by
  cases digits : Nat.toDigits 10 value with
  | nil => exact absurd digits Nat.toDigits_ne_nil
  | cons first others =>
    exact ⟨first, others, rfl,
      Nat.isDigit_of_mem_toDigits (by decide) (by decide) (digits ▸ List.mem_cons_self)⟩

private theorem readValue_integer (depth : Nat) {value : Int} (kept : Keeps value)
    {rest : List Char} (delimits : Delimits rest) :
    readValue depth (write (.integer value) ++ rest) = (.integer value, some rest) := by
  obtain ⟨low, high⟩ := kept
  cases value with
  | ofNat value =>
    have number := readNumber_toDigits false (Int.ofNat_le.mp high) delimits
    obtain ⟨first, others, digits, digit⟩ := toDigits_cons value
    rw [digits, List.cons_append] at number
    rw [write_ofNat, digits, List.cons_append, readValue_digit depth digit, number]
    rfl
  | negSucc value =>
    have small : value + 1 ≤ UInt64.size / 2 := by omega
    have fits : value + 1 ≤ maxInteger := Nat.le_trans small (by decide)
    have number := readNumber_toDigits true fits delimits
    rw [ofInteger_negative (Nat.succ_pos value) small] at number
    rw [write_negSucc, List.cons_append, readValue, skipBlanks_cons (by decide)]
    simp only [number]
    rfl

end Numbers

section Trees

variable {depth fuel : Nat} {rest : List Char}

def itemsBehind : List Json → List Char
  | [] => []
  | item :: items => ',' :: writeItems (item :: items)

def membersBehind : List (String × Json) → List Char
  | [] => []
  | member :: members => ',' :: writeMembers (member :: members)

private theorem writeItems_cons (item : Json) (items : List Json) :
    writeItems (item :: items) = write item ++ itemsBehind items := by
  cases items <;> simp [writeItems, itemsBehind]

private theorem writeMembers_cons (member : String × Json) (members : List (String × Json)) :
    writeMembers (member :: members) = '"' :: (member.1.toList.flatMap escaped ++
      '"' :: ':' :: (write member.2 ++ membersBehind members)) := by
  cases members <;> simp [writeMembers, membersBehind, quoted]

private theorem length_le_itemsBehind (items : List Json) :
    items.length ≤ (itemsBehind items).length := by
  induction items with
  | nil => exact Nat.le_refl _
  | cons item items ih =>
    rw [itemsBehind, writeItems_cons, List.length_cons, List.length_cons, List.length_append]
    omega

private theorem length_le_membersBehind (members : List (String × Json)) :
    members.length ≤ (membersBehind members).length := by
  induction members with
  | nil => exact Nat.le_refl _
  | cons member members ih =>
    rw [membersBehind, writeMembers_cons]
    simp only [List.length_cons, List.length_append]
    omega

private theorem delimits_itemsBehind (items : List Json) (rest : List Char) :
    Delimits (itemsBehind items ++ ']' :: rest) := by
  cases items <;> simp [itemsBehind, Delimits]

private theorem delimits_membersBehind (members : List (String × Json)) (rest : List Char) :
    Delimits (membersBehind members ++ '}' :: rest) := by
  cases members <;> simp [membersBehind, Delimits]

/-- A tree is written from a character on that is no blank and closes nothing. -/
theorem Plain.head {json : Json} (plain : Plain depth json) :
    ∃ c text, write json = c :: text ∧ isBlank c = false ∧ c ≠ ']' := by
  cases plain with
  | null => exact ⟨_, _, rfl, rfl, by decide⟩
  | bool value => cases value <;> exact ⟨_, _, rfl, rfl, by decide⟩
  | @integer _ value kept =>
    cases value with
    | ofNat value =>
      obtain ⟨first, others, digits, digit⟩ := toDigits_cons value
      refine ⟨first, others, (write_ofNat value).trans digits, isBlank_of_isDigit digit, ?_⟩
      rintro rfl
      exact absurd digit (by decide)
    | negSucc value => exact ⟨_, _, write_negSucc value, rfl, by decide⟩
  | string value => exact ⟨_, _, rfl, rfl, by decide⟩
  | array plain => exact ⟨_, _, rfl, rfl, by decide⟩
  | object plain => exact ⟨_, _, rfl, rfl, by decide⟩

variable {readItem : List Char → Reading} {items : List Json} {members : List (String × Json)}

private theorem readItems_first (fuel : Nat) {json : Json} (plain : Plain depth json)
    {behind : List Char} (reads : readItem (write json ++ behind) = (json, some behind)) :
    readItems readItem (fuel + 1) true (write json ++ behind) =
      (json :: (readItems readItem fuel false behind).1,
        (readItems readItem fuel false behind).2) := by
  obtain ⟨c, text, written, shown, apart⟩ := plain.head
  rw [written, List.cons_append] at reads ⊢
  simp only [readItems, if_true, skipBlanks_cons shown, reads]

private theorem readItems_next (fuel : Nat) {json : Json} (plain : Plain depth json)
    {behind : List Char} (reads : readItem (write json ++ behind) = (json, some behind)) :
    readItems readItem (fuel + 1) false (',' :: (write json ++ behind)) =
      (json :: (readItems readItem fuel false behind).1,
        (readItems readItem fuel false behind).2) := by
  obtain ⟨c, text, written, shown, apart⟩ := plain.head
  rw [written, List.cons_append] at reads ⊢
  have comma := @skipBlanks_cons ',' (by decide)
  simp only [readItems, ↓Char.isValue, comma, Char.reduceEq, imp_self, Bool.false_eq_true,
    ↓reduceIte, skipBlanks_cons shown]
  split
  · next none => cases none
  · next closed => exact absurd (List.cons.inj closed).1 apart
  · simp only [reads]

private theorem readItems_behind (rest : List Char) (plain : ∀ item ∈ items, Plain depth item)
    (reads : ∀ item ∈ items, ∀ behind, Delimits behind →
      readItem (write item ++ behind) = (item, some behind))
    (enough : items.length < fuel) :
    readItems readItem fuel false (itemsBehind items ++ ']' :: rest) =
      (items, .closed, some rest) := by
  induction items generalizing fuel with
  | nil =>
    obtain ⟨fuel, rfl⟩ := Nat.exists_eq_add_one.mpr enough
    rfl
  | cons item items ih =>
    rw [List.forall_mem_cons] at plain reads
    obtain ⟨fuel, rfl⟩ := Nat.exists_eq_add_one.mpr (Nat.zero_lt_of_lt enough)
    have others := ih plain.2 reads.2 (Nat.lt_of_succ_lt_succ enough)
    have next := readItems_next fuel plain.1 (reads.1 _ (delimits_itemsBehind items rest))
    rw [itemsBehind, writeItems_cons, List.cons_append, List.append_assoc, next, others]

private theorem readItems_write (rest : List Char) (plain : ∀ item ∈ items, Plain depth item)
    (reads : ∀ item ∈ items, ∀ behind, Delimits behind →
      readItem (write item ++ behind) = (item, some behind))
    (enough : items.length < fuel) :
    readItems readItem fuel true (writeItems items ++ ']' :: rest) =
      (items, .closed, some rest) := by
  obtain ⟨fuel, rfl⟩ := Nat.exists_eq_add_one.mpr (Nat.zero_lt_of_lt enough)
  cases items with
  | nil => rfl
  | cons item items =>
    rw [List.forall_mem_cons] at plain reads
    have first := readItems_first fuel plain.1 (reads.1 _ (delimits_itemsBehind items rest))
    have others := readItems_behind rest plain.2 reads.2 (Nat.lt_of_succ_lt_succ enough)
    rw [writeItems_cons, List.append_assoc, first, others]

variable {readMember : List Char → Reading} {members : List (String × Json)}

private theorem readMembers_first (fuel : Nat) (name : String) {value : Json} {behind : List Char}
    (reads : readMember (write value ++ behind) = (value, some behind)) :
    readMembers readMember (fuel + 1) true
        ('"' :: (name.toList.flatMap escaped ++ '"' :: ':' :: (write value ++ behind))) =
      ((name, value) :: (readMembers readMember fuel false behind).1,
        (readMembers readMember fuel false behind).2) := by
  have quote := @skipBlanks_cons '"' (by decide)
  have colon := @skipBlanks_cons ':' (by decide)
  simp only [readMembers, ↓Char.isValue, quote, Char.reduceEq, imp_self, ↓reduceIte,
    readString_quoted, colon, reads]

private theorem readMembers_next (fuel : Nat) (name : String) {value : Json} {behind : List Char}
    (reads : readMember (write value ++ behind) = (value, some behind)) :
    readMembers readMember (fuel + 1) false
        (',' :: '"' :: (name.toList.flatMap escaped ++ '"' :: ':' :: (write value ++ behind))) =
      ((name, value) :: (readMembers readMember fuel false behind).1,
        (readMembers readMember fuel false behind).2) := by
  have comma := @skipBlanks_cons ',' (by decide)
  have quote := @skipBlanks_cons '"' (by decide)
  have colon := @skipBlanks_cons ':' (by decide)
  simp only [readMembers, ↓Char.isValue, comma, Char.reduceEq, imp_self, Bool.false_eq_true,
    ↓reduceIte, quote, readString_quoted, colon, reads]

private theorem readMembers_behind (rest : List Char)
    (reads : ∀ member ∈ members, ∀ behind, Delimits behind →
      readMember (write member.2 ++ behind) = (member.2, some behind))
    (enough : members.length < fuel) :
    readMembers readMember fuel false (membersBehind members ++ '}' :: rest) =
      (members, .closed, some rest) := by
  induction members generalizing fuel with
  | nil =>
    obtain ⟨fuel, rfl⟩ := Nat.exists_eq_add_one.mpr enough
    rfl
  | cons member members ih =>
    rw [List.forall_mem_cons] at reads
    obtain ⟨fuel, rfl⟩ := Nat.exists_eq_add_one.mpr (Nat.zero_lt_of_lt enough)
    have others := ih reads.2 (Nat.lt_of_succ_lt_succ enough)
    have next := readMembers_next fuel member.1 (reads.1 _ (delimits_membersBehind members rest))
    rw [others] at next
    rw [membersBehind, writeMembers_cons]
    simpa only [List.cons_append, List.append_assoc] using next

private theorem readMembers_write (rest : List Char)
    (reads : ∀ member ∈ members, ∀ behind, Delimits behind →
      readMember (write member.2 ++ behind) = (member.2, some behind))
    (enough : members.length < fuel) :
    readMembers readMember fuel true (writeMembers members ++ '}' :: rest) =
      (members, .closed, some rest) := by
  obtain ⟨fuel, rfl⟩ := Nat.exists_eq_add_one.mpr (Nat.zero_lt_of_lt enough)
  cases members with
  | nil => rfl
  | cons member members =>
    rw [List.forall_mem_cons] at reads
    have first := readMembers_first fuel member.1 (reads.1 _ (delimits_membersBehind members rest))
    have others := readMembers_behind rest reads.2 (Nat.lt_of_succ_lt_succ enough)
    rw [others] at first
    simpa only [writeMembers_cons, List.cons_append, List.append_assoc] using first

/-- A tree is read back from its text, and the text behind it is left. -/
theorem readValue_write {json : Json} (plain : Plain depth json) (delimits : Delimits rest) :
    readValue depth (write json ++ rest) = (json, some rest) := by
  induction plain generalizing rest with
  | null =>
    rw [write, readValue]
    rfl
  | bool value =>
    cases value with
    | false =>
      rw [write, readValue]
      rfl
    | true =>
      rw [write, readValue]
      rfl
  | integer kept => exact readValue_integer _ kept delimits
  | string value =>
    have opened : write (.string value) ++ rest =
        '"' :: (value.toList.flatMap escaped ++ '"' :: rest) := by simp [write, quoted]
    rw [opened, readValue, skipBlanks_cons (by decide)]
    simp only [readString_quoted]
    rfl
  | @array depth items plain ih =>
    have opened : write (.array items .closed) ++ rest =
        '[' :: (writeItems items ++ ']' :: rest) := by
      simp [write]
    have enough : items.length < (writeItems items ++ ']' :: rest).length + 1 := by
      cases items with
      | nil => exact Nat.succ_pos _
      | cons item items =>
        have := length_le_itemsBehind items
        simp only [writeItems_cons, List.length_append, List.length_cons]
        omega
    have read := readItems_write rest plain (fun item member _ => ih item member) enough
    rw [opened, readValue, skipBlanks_cons (by decide)]
    simp only [read]
  | @object depth members plain ih =>
    have opened : write (.object members .closed) ++ rest =
        '{' :: (writeMembers members ++ '}' :: rest) := by
      simp [write]
    have enough : members.length < (writeMembers members ++ '}' :: rest).length + 1 := by
      cases members with
      | nil => exact Nat.succ_pos _
      | cons member members =>
        have := length_le_membersBehind members
        simp only [writeMembers_cons, List.length_append, List.length_cons]
        omega
    have read := readMembers_write rest (fun member inside _ => ih member inside) enough
    rw [opened, readValue, skipBlanks_cons (by decide)]
    simp only [read]

theorem ofText_text {json : Json} (plain : Plain maxDepth json) :
    ofText json.text = (json, false) := by
  have delimits : Delimits [] := nofun
  have read := readValue_write plain delimits
  rw [List.append_nil] at read
  rw [ofText, text, String.toList_ofList, read]
  rfl

end Trees

end Json

end AdmissionControl
