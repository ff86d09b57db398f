import Mathlib.Data.List.TakeDrop
import UnitOfWork.Document.Json.Reader
import UnitOfWork.Document.Json.Writer
import UnitOfWork.Proofs.Steps
import UnitOfWork.Proofs.Text.Radix

/-!
# JSON texts read back

A document is plain when every part of it has a written form of its own: its numbers are whole, its texts
and names have a value. Reading the text that is written for a plain document gives the document back
(`read_write`).

A reader takes characters off the front, so each law is about a written form with more behind it:
`quoted_escaped` for what stands between quotes, `number_written` for numbers, which end where no digit
can follow, and `value_written` for all documents, by recursion on the document. Reading counts its
steps; twice the length of what is written is enough for a value, and one more for items or members.
-/

set_option autoImplicit false

namespace UnitOfWork.Document.Json

/-! ## Quoted texts -/

section Quoted

variable {c letter : Char} {rest : List Char} {n : Nat}

/-- Four hexadecimal digits after a backslash and a `u` are one unit of a character. -/
theorem marks_unit {a b c d : Char} (h : Text.fixed? 16 [a, b, c, d] = some n) :
    marks ('\\' :: 'u' :: a :: b :: c :: d :: rest) =
      (marks rest).map fun (ms, rest) => (.unit n :: ms, rest) := by
  rw [marks, h]
  cases marks rest <;> rfl

/-- A backslash and one of the short letters are the character they stand for. -/
theorem marks_letter (hne : letter ≠ 'u') (h : escaped? letter = some c) :
    marks ('\\' :: letter :: rest) = (marks rest).map fun (ms, rest) => (.char c :: ms, rest) := by
  rw [marks, h]
  · cases marks rest <;> rfl
  · intro a b c d rest' hu
    exact absurd hu hne

/-- A character that needs no escape stands for itself. -/
theorem marks_plain (hquote : c ≠ '"') (hslash : c ≠ '\\') (h : ¬c.toNat < 0x20) :
    marks (c :: rest) = (marks rest).map fun (ms, rest) => (.char c :: ms, rest) := by
  rw [marks, if_neg h]
  · cases marks rest <;> rfl
  · exact hquote
  · intro a b c d rest' hu
    exact absurd hu hslash
  · intro letter rest' hu
    exact absurd hu hslash

/-- Control characters are written by two hexadecimal digits behind two zeros. -/
theorem exists_unitEscape (h : n < 0x20) :
    ∃ a b c d, unitEscape n = ['\\', 'u', a, b, c, d] ∧ Text.fixed? 16 [a, b, c, d] = some n := by
  have hall : ∀ n < 0x20,
      unitEscape n = ['\\', 'u', '0', '0', (n / 16).digitChar, (n % 16).digitChar] ∧
        Text.fixed? 16 ['0', '0', (n / 16).digitChar, (n % 16).digitChar] = some n := by decide
  exact ⟨_, _, _, _, hall n h⟩

/-- A control character is no half of a pair. -/
theorem joined_unit (h : c.toNat < 0x20) (ms : List Mark) :
    joined (.unit c.toNat :: ms) = (joined ms).map (c :: ·) := by
  have hleading : isLeading c.toNat = false := by
    simp only [isLeading, Bool.and_eq_false_iff, decide_eq_false_iff_not]
    omega
  have htrailing : isTrailing c.toNat = false := by
    simp only [isTrailing, Bool.and_eq_false_iff, decide_eq_false_iff_not]
    omega
  rw [joined.eq_def]
  simp only [hleading, htrailing, Bool.false_eq_true, if_false, Char.ofNat_toNat]

/-- An escaped character is read as one mark, which stands for the character. -/
theorem marks_escape (c : Char) (rest : List Char) :
    ∃ mark, marks (escape c ++ rest) = (marks rest).map (fun (ms, rest) => (mark :: ms, rest)) ∧
      ∀ ms, joined (mark :: ms) = (joined ms).map (c :: ·) := by
  unfold escape
  split
  case h_8 hquote hslash _ _ _ _ _ =>
    split
    · next hcontrol =>
      obtain ⟨a, b, c', d, hescape, hvalue⟩ := exists_unitEscape hcontrol
      rw [hescape]
      exact ⟨.unit c.toNat, marks_unit hvalue, joined_unit hcontrol⟩
    · next hcontrol => exact ⟨.char c, marks_plain hquote hslash hcontrol, fun _ => rfl⟩
  all_goals exact ⟨.char _, marks_letter (by decide) rfl, fun _ => rfl⟩

/-- What stands between quotes is read up to the closing one. -/
theorem marks_escaped (s rest : List Char) :
    ∃ ms, marks (s.flatMap escape ++ '"' :: rest) = some (ms, rest) ∧ joined ms = some s := by
  induction s with
  | nil => exact ⟨[], rfl, rfl⟩
  | cons c s ih =>
    obtain ⟨ms, hmarks, hjoined⟩ := ih
    obtain ⟨mark, hmark, hjoin⟩ := marks_escape c (s.flatMap escape ++ '"' :: rest)
    refine ⟨mark :: ms, ?_, ?_⟩
    · rw [List.flatMap_cons, List.append_assoc, hmark, hmarks]
      rfl
    · rw [hjoin, hjoined]
      rfl

theorem quote_some (s : String) (rest : List Char) :
    quote (some s) ++ rest = '"' :: (s.toList.flatMap escape ++ '"' :: rest) := by
  simp [quote]

/-- A string written with its escapes is read back. -/
theorem quoted_escaped (s : String) (rest : List Char) :
    quoted (s.toList.flatMap escape ++ '"' :: rest) = some (some s, rest) := by
  obtain ⟨ms, hmarks, hjoined⟩ := marks_escaped s.toList rest
  rw [quoted, hmarks]
  simp [hjoined]

end Quoted

/-! ## Whole numbers -/

section Numbers

variable {c : Char} {rest : List Char} {n : Nat}

/-- What may follow a number: nothing, or a mark that ends an item or a member. -/
def Stops (rest : List Char) : Prop := ∀ c ∈ rest.head?, c = ',' ∨ c = ']' ∨ c = '\x7d'

/-- The digits of a number are the decimal digits. -/
theorem isDigit_iff : Text.isDigit c = true ↔ c.isDigit = true := by
  simp only [Text.isDigit, Char.isDigit, Bool.and_eq_true, decide_eq_true_eq]
  exact Iff.rfl

theorem Stops.not_isDigit (h : Stops rest) : ∀ c ∈ rest.head?, Text.isDigit c = false := by
  intro c hc
  obtain rfl | rfl | rfl := h c hc <;> rfl

/-- There is no fraction where a number stops. -/
theorem fraction_of_stops (h : Stops rest) : fraction rest = some ([], rest) := by
  cases rest with
  | nil => rfl
  | cons c rest => obtain rfl | rfl | rfl := h c rfl <;> rfl

/-- There is no exponent where a number stops. -/
theorem exponent_of_stops (h : Stops rest) : exponent rest = some ([], rest) := by
  cases rest with
  | nil => rfl
  | cons c rest => obtain rfl | rfl | rfl := h c rfl <;> rfl

theorem isDigit_of_mem_toDigits (h : c ∈ Nat.toDigits 10 n) : Text.isDigit c = true :=
  isDigit_iff.mpr (Nat.isDigit_of_mem_toDigits (by decide) (by decide) h)

/-- A numeral begins with a zero only where that is all of it. -/
theorem isWhole_toDigits (n : Nat) : isWhole (Nat.toDigits 10 n) = true := by
  have hhead : ∀ n, 0 < n → ∃ c digits, Nat.toDigits 10 n = c :: digits ∧ c ≠ '0' := by
    intro n
    induction n using Nat.strongRecOn with
    | ind n ih =>
      intro hpos
      rw [Nat.toDigits_eq_if (by decide)]
      split
      · next hlt =>
        have hne : ∀ n < 10, 0 < n → n.digitChar ≠ '0' := by decide
        exact ⟨_, _, rfl, hne n hlt hpos⟩
      · obtain ⟨c, digits, hdigits, hc⟩ := ih (n / 10) (by omega) (by omega)
        exact ⟨c, digits ++ [_], by rw [hdigits]; rfl, hc⟩
  obtain rfl | hpos := Nat.eq_zero_or_pos n
  · rfl
  · obtain ⟨c, digits, hdigits, hc⟩ := hhead n hpos
    have hne : ∀ tail, c :: digits ≠ '0' :: tail := fun tail h => hc (List.cons.inj h).1
    rw [hdigits, isWhole]
    · exact List.cons_ne_nil c digits
    · exact hne []
    · exact hne

/-- The digits of a number have its value. -/
theorem fixed?_decimal (n : Nat) : Text.fixed? 10 (Nat.toDigits 10 n) = some n :=
  Text.fixed?_toDigits (by decide) (by decide) 0 n

/-- The digits of a number end where the number stops. -/
theorem span_toDigits (h : Stops rest) :
    (Nat.toDigits 10 n ++ rest).span Text.isDigit = (Nat.toDigits 10 n, rest) := by
  have hdigits : ∀ c ∈ Nat.toDigits 10 n, Text.isDigit c = true := fun c => isDigit_of_mem_toDigits
  rw [List.span_eq_takeWhile_dropWhile, List.takeWhile_append_of_pos hdigits,
    List.dropWhile_append_of_pos hdigits]
  cases rest with
  | nil => simp
  | cons c rest =>
    have hc : Text.isDigit c = false := h.not_isDigit c rfl
    simp [hc]

/-- Digits behind a sign or none are read as the number they stand for. -/
theorem number_toDigits {negative : List Char} (h : Stops rest)
    (hsign : sign ['-'] (negative ++ (Nat.toDigits 10 n ++ rest)) =
      (negative, Nat.toDigits 10 n ++ rest)) (hzero : negative = [] ∨ n ≠ 0) :
    number (negative ++ (Nat.toDigits 10 n ++ rest)) =
      some (.integer (if negative.isEmpty then n else -n), rest) := by
  have hwhole : (!isWhole (Nat.toDigits 10 n)) = false := by rw [isWhole_toDigits]; rfl
  have hvalue : (negative.isEmpty || n != 0) = true := by simpa using hzero
  unfold number
  rw [hsign]
  simp only [span_toDigits h, hwhole, Bool.false_eq_true, if_false, fraction_of_stops h,
    fixed?_decimal, Option.bind_eq_bind, Option.bind_some, exponent_of_stops h]
  simp [hvalue]

/-- A number without a minus has no sign. -/
theorem sign_toDigits : sign ['-'] (Nat.toDigits 10 n ++ rest) = ([], Nat.toDigits 10 n ++ rest) := by
  cases hdigits : Nat.toDigits 10 n with
  | nil => exact absurd hdigits Nat.toDigits_ne_nil
  | cons c digits =>
    have hc : Text.isDigit c = true := isDigit_of_mem_toDigits (n := n) (by simp [hdigits])
    have hne : c ≠ '-' := by
      rintro rfl
      cases hc
    simp [sign, hne]

/-- A whole number is written as its minus, if it has one, and its digits. -/
theorem toString_toList (value : Int) :
    (toString value).toList =
      (if 0 ≤ value then [] else ['-']) ++ Nat.toDigits 10 value.natAbs := by
  have hrepr : toString value = value.repr := rfl
  rw [hrepr, Int.repr_eq_if]
  split
  · next h =>
    have habs : value.toNat = value.natAbs := by omega
    simp [Nat.repr_eq_ofList_toDigits, habs]
  · next h =>
    have habs : (-value).toNat = value.natAbs := by omega
    simp [Nat.repr_eq_ofList_toDigits, habs]

/-- A whole number is read as it was written. -/
theorem number_written (value : Int) (h : Stops rest) :
    number ((toString value).toList ++ rest) = some (.integer value, rest) := by
  rw [toString_toList, List.append_assoc]
  by_cases hsign : 0 ≤ value
  · rw [if_pos hsign, number_toDigits h (by simp [sign_toDigits]) (.inl rfl)]
    have habs : (value.natAbs : Int) = value := by omega
    show some (Document.integer value.natAbs, rest) = _
    rw [habs]
  · rw [if_neg hsign, number_toDigits h (by simp [sign]) (.inr (by omega))]
    have habs : -(value.natAbs : Int) = value := by omega
    show some (Document.integer (-value.natAbs), rest) = _
    rw [habs]

end Numbers

/-! ## Values -/

mutual

/-- A document whose every part has a written form of its own: numbers are whole, texts and names have
a value. -/
def isPlain : Document → Bool
  | .null => true
  | .boolean _ => true
  | .integer _ => true
  | .text q => q.isSome
  | .list items => arePlain items
  | .table members => membersArePlain members
  | _ => false

def arePlain : List Document → Bool
  | [] => true
  | x :: rest => isPlain x && arePlain rest

def membersArePlain : List (Quoted × Document) → Bool
  | [] => true
  | (name, x) :: rest => name.isSome && isPlain x && membersArePlain rest

end

section Values

variable {c : Char} {rest s s' : List Char} {steps : Nat} {x : Document} {xs : List Document}

/-- There is no gap before a character that is none. -/
theorem skipGap_cons (h : isGap c = false) (rest : List Char) : skipGap (c :: rest) = c :: rest :=
  List.dropWhile_cons_of_neg (by simp [h])

/-- What a number begins with is none of the marks of the notation. -/
theorem ne_mark {mark : Char} (h : c = '-' ∨ Text.isDigit c = true)
    (hmark : mark ∈ ['"', '[', ']', '\x7b', 'n', 't', 'f', ' ', '\n', '\t', '\r']) : c ≠ mark := by
  have hnone : ['"', '[', ']', '\x7b', 'n', 't', 'f', ' ', '\n', '\t', '\r'].all
      (fun mark => mark != '-' && !Text.isDigit mark) = true := rfl
  rintro rfl
  have hc := List.all_eq_true.mp hnone c hmark
  obtain rfl | hdigit := h
  · cases hc
  · simp [hdigit] at hc

theorem isGap_number (h : c = '-' ∨ Text.isDigit c = true) : isGap c = false := by
  simp [isGap, ne_mark h]

/-- What begins with a sign or a digit is a number. -/
theorem value_number (h : c = '-' ∨ Text.isDigit c = true) (rest : List Char) :
    value (steps + 1) (c :: rest) = number (c :: rest) := by
  have hfirst {mark : Char} {tail : List Char} (heq : c :: rest = mark :: tail) : c = mark :=
    (List.cons.inj heq).1
  simp only [value, skipGap_cons (isGap_number h)]
  split
  · next heq => exact absurd (hfirst heq) (ne_mark h (by decide))
  · next heq => exact absurd (hfirst heq) (ne_mark h (by decide))
  · next heq => exact absurd (hfirst heq) (ne_mark h (by decide))
  · next heq => exact absurd (hfirst heq) (ne_mark h (by decide))
  · next heq => exact absurd (hfirst heq) (ne_mark h (by decide))
  · next heq => exact absurd (hfirst heq) (ne_mark h (by decide))
  · rfl

/-- A string written is read as that string. -/
theorem value_quote (name : String) (rest : List Char) :
    value (steps + 1) (quote (some name) ++ rest) = some (.text (some name), rest) := by
  rw [quote_some]
  change (quoted _).map _ = _
  rw [quoted_escaped]
  rfl

/-- What begins an item: no blank, and nothing that closes the list. -/
def Begins (s : List Char) : Prop := ∃ c rest, s = c :: rest ∧ isGap c = false ∧ c ≠ ']'

/-- A list is read when its items are. -/
theorem value_list (hbegins : Begins s) (h : items steps s = some (xs, rest)) :
    value (steps + 1) ('[' :: s) = some (.list xs, rest) := by
  obtain ⟨c, tail, rfl, hgap, hne⟩ := hbegins
  have hopen : isGap '[' = false := rfl
  simp only [value, skipGap_cons hopen, skipGap_cons hgap]
  split
  · next heq => exact absurd (List.cons.inj heq).1 hne
  · rw [h]
    rfl

/-- A table is read when its members are. -/
theorem value_table {name : String} {ms : List (Quoted × Document)}
    (h : members steps (quote (some name) ++ s) = some (ms, rest)) :
    value (steps + 1) ('\x7b' :: (quote (some name) ++ s)) = some (.table ms, rest) := by
  change (members steps (quote (some name) ++ s)).map _ = _
  rw [h]
  rfl

/-- The last item of a list is followed by its bracket. -/
theorem items_last (h : value steps s = some (x, ']' :: rest)) :
    items (steps + 1) s = some ([x], rest) := by
  rw [items, h]
  rfl

/-- Every other item of a list is followed by a comma and more items. -/
theorem items_more (h : value steps s = some (x, ',' :: s')) (hmore : items steps s' = some (xs, rest)) :
    items (steps + 1) s = some (x :: xs, rest) := by
  rw [items, h]
  change (items steps s').bind _ = _
  rw [hmore]
  rfl

/-- The last member of a table is followed by its brace. -/
theorem members_last {name : String} (h : value steps s = some (x, '\x7d' :: rest)) :
    members (steps + 1) (quote (some name) ++ ':' :: s) = some ([(some name, x)], rest) := by
  rw [members, quote_some]
  change (quoted _).bind _ = _
  rw [quoted_escaped]
  change (value steps s).bind _ = _
  rw [h]
  rfl

/-- Every other member of a table is followed by a comma and more members. -/
theorem members_more {name : String} {ms : List (Quoted × Document)}
    (h : value steps s = some (x, ',' :: s')) (hmore : members steps s' = some (ms, rest)) :
    members (steps + 1) (quote (some name) ++ ':' :: s) = some ((some name, x) :: ms, rest) := by
  rw [members, quote_some]
  change (quoted _).bind _ = _
  rw [quoted_escaped]
  change (value steps s).bind _ = _
  rw [h]
  change (members steps s').bind _ = _
  rw [hmore]
  rfl

/-- A written number begins with a sign or a digit. -/
theorem exists_written_integer (n : Int) :
    ∃ c rest, (toString n).toList = c :: rest ∧ (c = '-' ∨ Text.isDigit c = true) := by
  rw [toString_toList]
  split
  · cases hdigits : Nat.toDigits 10 n.natAbs with
    | nil => exact absurd hdigits Nat.toDigits_ne_nil
    | cons c digits =>
      exact ⟨c, digits, rfl, .inr (isDigit_of_mem_toDigits (n := n.natAbs) (by simp [hdigits]))⟩
  · exact ⟨'-', _, rfl, .inl rfl⟩

/-- A written document begins with a character that neither is a blank nor closes a list. -/
theorem begins_written {d : Document} (h : isPlain d = true) : Begins (written d) := by
  cases d with
  | null => exact ⟨'n', _, rfl, rfl, by decide⟩
  | boolean b => cases b <;> exact ⟨_, _, rfl, rfl, by decide⟩
  | integer n =>
    obtain ⟨c, rest, hwritten, hfirst⟩ := exists_written_integer n
    exact ⟨c, rest, hwritten, isGap_number hfirst, ne_mark hfirst (by decide)⟩
  | text q =>
    cases q with
    | none => cases h
    | some s => exact ⟨'"', _, rfl, rfl, by decide⟩
  | list items => exact ⟨'[', _, rfl, rfl, by decide⟩
  | table members => exact ⟨'\x7b', _, rfl, rfl, by decide⟩
  | real literal => cases h
  | invalidNumber literal => cases h
  | moment literal => cases h

/-- Items between commas. -/
def joinedItems (items : List Document) : List Char := [','].intercalate (writtenItems items)

/-- Members between commas. -/
def joinedMembers (members : List (Quoted × Document)) : List Char :=
  [','].intercalate (writtenMembers members)

theorem joinedItems_cons (x y : Document) (more : List Document) :
    joinedItems (x :: y :: more) = written x ++ ',' :: joinedItems (y :: more) := by
  simp [joinedItems, writtenItems, List.intercalate_cons_cons]

theorem joinedMembers_singleton (name : Quoted) (x : Document) :
    joinedMembers [(name, x)] = quote name ++ ':' :: written x := by
  simp [joinedMembers, writtenMembers]

theorem joinedMembers_cons (name : Quoted) (x : Document) (m : Quoted × Document)
    (more : List (Quoted × Document)) :
    joinedMembers ((name, x) :: m :: more) =
      quote name ++ ':' :: (written x ++ ',' :: joinedMembers (m :: more)) := by
  simp [joinedMembers, writtenMembers, List.intercalate_cons_cons]

/-- A number stops at what follows a value in a list or a table. -/
theorem stops_cons (h : c = ',' ∨ c = ']' ∨ c = '\x7d') (rest : List Char) : Stops (c :: rest) := by
  intro other hother
  obtain rfl : c = other := by simpa using hother
  exact h

/-- The items of a list begin with a value. -/
theorem begins_joinedItems {x : Document} {xs : List Document} (h : arePlain (x :: xs) = true)
    (rest : List Char) : Begins (joinedItems (x :: xs) ++ rest) := by
  obtain ⟨c, tail, hwritten, hc⟩ := begins_written (Bool.and_eq_true_iff.mp h).1
  cases xs with
  | nil =>
    have hjoined : joinedItems [x] = written x := by simp [joinedItems, writtenItems]
    rw [hjoined, hwritten]
    exact ⟨c, _, rfl, hc⟩
  | cons y more =>
    rw [joinedItems_cons, hwritten]
    exact ⟨c, _, rfl, hc⟩

/-- The members of a table begin with a name. -/
theorem exists_joinedMembers {m : Quoted × Document} {ms : List (Quoted × Document)}
    (h : membersArePlain (m :: ms) = true) :
    ∃ name tail, joinedMembers (m :: ms) = quote (some name) ++ tail := by
  obtain ⟨name | name, x⟩ := m
  · cases h
  · cases ms with
    | nil => exact ⟨name, _, joinedMembers_singleton _ _⟩
    | cons m more => exact ⟨name, _, joinedMembers_cons _ _ _ _⟩

mutual

/-- A written document is read as itself, and what follows it is left. Twice the length of what is
written are steps enough: each step but one in two takes a character. -/
theorem value_written : ∀ (d : Document) (steps : Nat) (rest : List Char), isPlain d = true →
    2 * (written d).length ≤ steps → Stops rest → value steps (written d ++ rest) = some (d, rest)
  | d, 0, rest, h, hsteps, _ => by
    obtain ⟨c, tail, hwritten, -⟩ := begins_written h
    simp [hwritten] at hsteps
  | .null, steps + 1, rest, _, _, _ => rfl
  | .boolean true, steps + 1, rest, _, _, _ => rfl
  | .boolean false, steps + 1, rest, _, _, _ => rfl
  | .integer n, steps + 1, rest, _, _, hstops => by
    obtain ⟨c, tail, hwritten, hfirst⟩ := exists_written_integer n
    have hread := number_written n hstops
    rw [hwritten, List.cons_append] at hread
    rw [written, hwritten, List.cons_append, value_number hfirst, hread]
  | .text none, _ + 1, _, h, _, _ => nomatch h
  | .text (some s), steps + 1, rest, _, _, _ => value_quote s rest
  | .list [], steps + 1, rest, _, _, _ => rfl
  | .list (x :: xs), steps + 1, rest, h, hsteps, _ => by
    have hwritten : written (.list (x :: xs)) = '[' :: (joinedItems (x :: xs) ++ [']']) := rfl
    rw [hwritten] at hsteps ⊢
    simp only [List.length_cons, List.length_append, List.length_nil] at hsteps
    rw [List.cons_append, List.append_assoc, List.singleton_append]
    exact value_list (begins_joinedItems h _) (items_written x xs steps rest h (by omega))
  | .table [], steps + 1, rest, _, _, _ => rfl
  | .table (m :: ms), steps + 1, rest, h, hsteps, _ => by
    have hwritten : written (.table (m :: ms)) =
        '\x7b' :: (joinedMembers (m :: ms) ++ ['\x7d']) := rfl
    rw [hwritten] at hsteps ⊢
    simp only [List.length_cons, List.length_append, List.length_nil] at hsteps
    have hread := members_written m ms steps rest h (by omega)
    obtain ⟨name, tail, hjoined⟩ := exists_joinedMembers h
    rw [hjoined, List.append_assoc] at hread
    rw [List.cons_append, List.append_assoc, List.singleton_append, hjoined, List.append_assoc]
    exact value_table hread
  | .real _, _ + 1, _, h, _, _ => nomatch h
  | .invalidNumber _, _ + 1, _, h, _, _ => nomatch h
  | .moment _, _ + 1, _, h, _, _ => nomatch h

/-- The items of a list are read back. -/
theorem items_written : ∀ (x : Document) (xs : List Document) (steps : Nat) (rest : List Char),
    arePlain (x :: xs) = true → 2 * (joinedItems (x :: xs)).length < steps →
      items steps (joinedItems (x :: xs) ++ ']' :: rest) = some (x :: xs, rest)
  | _, _, 0, _, _, hsteps => by omega
  | x, [], steps + 1, rest, h, hsteps => by
    obtain ⟨hx, -⟩ := Bool.and_eq_true_iff.mp h
    have hjoined : joinedItems [x] = written x := by simp [joinedItems, writtenItems]
    rw [hjoined] at hsteps ⊢
    exact items_last (value_written x steps _ hx (by omega) (stops_cons (by simp) rest))
  | x, y :: more, steps + 1, rest, h, hsteps => by
    obtain ⟨hx, hmore⟩ := Bool.and_eq_true_iff.mp h
    rw [joinedItems_cons] at hsteps ⊢
    simp only [List.length_cons, List.length_append] at hsteps
    rw [List.append_assoc, List.cons_append]
    exact items_more (value_written x steps _ hx (by omega) (stops_cons (by simp) _))
      (items_written y more steps rest hmore (by omega))

/-- The members of a table are read back. -/
theorem members_written : ∀ (m : Quoted × Document) (ms : List (Quoted × Document)) (steps : Nat)
    (rest : List Char), membersArePlain (m :: ms) = true →
      2 * (joinedMembers (m :: ms)).length < steps →
        members steps (joinedMembers (m :: ms) ++ '\x7d' :: rest) = some (m :: ms, rest)
  | _, _, 0, _, _, hsteps => by omega
  | (none, _), _, _ + 1, _, h, _ => nomatch h
  | (some name, x), [], steps + 1, rest, h, hsteps => by
    have hx : isPlain x = true := by simpa [membersArePlain] using h
    rw [joinedMembers_singleton] at hsteps ⊢
    simp only [List.length_cons, List.length_append] at hsteps
    rw [List.append_assoc, List.cons_append]
    exact members_last (value_written x steps _ hx (by omega) (stops_cons (by simp) rest))
  | (some name, x), m :: more, steps + 1, rest, h, hsteps => by
    have hplain : isPlain x = true ∧ membersArePlain (m :: more) = true := by
      simpa [membersArePlain] using h
    rw [joinedMembers_cons] at hsteps ⊢
    simp only [List.length_cons, List.length_append] at hsteps
    rw [List.append_assoc, List.cons_append, List.append_assoc, List.cons_append]
    exact members_more (value_written x steps _ hplain.1 (by omega) (stops_cons (by simp) _))
      (members_written m more steps rest hplain.2 (by omega))

end

/-- Reading gives back what was written. -/
theorem read_write {d : Document} (h : isPlain d = true) : read (write d) = some d := by
  have hread := value_written d (2 * (written d).length + 2) [] h (by omega) fun c hc => nomatch hc
  rw [List.append_nil] at hread
  rw [read, write, String.toList_ofList]
  simp only [hread]
  rfl

end Values

end UnitOfWork.Document.Json
