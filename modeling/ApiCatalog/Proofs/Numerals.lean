import ApiCatalog.Number.Literal
import ApiCatalog.Proofs.CommentTexts

/-!
Which texts are read as integers: digits of any script, perhaps grouped by underscores, after a sign
or none, with white space around them.
-/

set_option autoImplicit false

namespace ApiCatalog.Number

open Text

-- Digits and their values. A single underscore may stand between two digits.
inductive Grouped : List Char → List Nat → Prop
  | last {c : Char} {d : Nat} (digit : digitValue? c = some d) : Grouped [c] [d]
  | next {c : Char} {d : Nat} {cs : List Char} {ds : List Nat} (digit : digitValue? c = some d)
      (onward : Grouped cs ds) : Grouped (c :: cs) (d :: ds)
  | split {c : Char} {d : Nat} {cs : List Char} {ds : List Nat} (digit : digitValue? c = some d)
      (onward : Grouped cs ds) : Grouped (c :: '_' :: cs) (d :: ds)

-- The number that digits make up, the most significant one first.
def ofDigitValues (ds : List Nat) : Nat := ds.foldl (fun n d => 10 * n + d) 0

-- The signs, and whether they stand for a negative number.
def signs : List (List Char × Bool) := [([], false), (['+'], false), (['-'], true)]

-- A text that stands for an integer.
inductive Numeral : List Char → Int → Prop
  | intro {before sign digits after : List Char} {negative : Bool} {ds : List Nat}
      (padding : ∀ c ∈ before ++ after, isPadding c) (isSign : (sign, negative) ∈ signs)
      (grouped : Grouped digits ds) (short : ds.length ≤ maxIntegerDigits) :
      Numeral (before ++ (sign ++ digits) ++ after) (applySign negative (ofDigitValues ds))

section Digits

variable {c : Char} {d : Nat}

theorem digitValue?_le (digit : digitValue? c = some d) : d ≤ 9 := by
  obtain ⟨first, found, rfl⟩ := Option.map_eq_some_iff.1 digit
  have inside := List.find?_some found
  simp only [Bool.and_eq_true, decide_eq_true_eq] at inside
  omega

theorem digitValue?_of_isDigit (isDigit : c.isDigit) : digitValue? c = some (c.toNat - 48) := by
  have inside : 48 ≤ c.toNat ∧ c.toNat ≤ 57 := by
    simpa [Char.isDigit, UInt32.le_iff_toNat_le] using isDigit
  have first :
      digitZeros.find? (fun first => first ≤ c.toNat && c.toNat ≤ first + 9) = some 48 := by
    rw [digitZeros, List.find?_cons_of_pos]
    simpa using inside
  rw [digitValue?, first]
  rfl

theorem digitValue?_not_padding (digit : digitValue? c = some d) : isPadding c = false := by
  have apart : ∀ code ∈ blankRanges.codes, digitValue? (Char.ofNat code) = none := by
    decide +kernel
  cases blank : isBlank c with
  | false => simp [isPadding, blank]
  | true =>
    have none := apart _ (Ranges.mem_codes blank)
    rw [Char.ofNat_toNat, digit] at none
    cases none

theorem digitChar_of_le (small : d ≤ 9) :
    (Char.ofNat (d + 48)).isDigit ∧ (Char.ofNat (d + 48)).toNat - 48 = d := by
  have each : ∀ d ∈ List.range 10,
      (Char.ofNat (d + 48)).isDigit ∧ (Char.ofNat (d + 48)).toNat - 48 = d := by decide
  exact each d (List.mem_range.2 (by omega))

theorem asciiDigit_of_digit (digit : digitValue? c = some d) :
    asciiDigit c = Char.ofNat (d + 48) := by
  simp [asciiDigit, digit]

theorem exists_digit (isDigit : (asciiDigit c).isDigit) :
    digitValue? c = some ((asciiDigit c).toNat - 48) := by
  cases digit : digitValue? c with
  | some d => rw [asciiDigit_of_digit digit, (digitChar_of_le (digitValue?_le digit)).2]
  | none =>
    have same : asciiDigit c = c := by simp [asciiDigit, digit]
    rw [same] at isDigit
    simp [digitValue?_of_isDigit isDigit] at digit

-- Only digits are changed.
theorem eq_of_asciiDigit_eq {mark : Char} (same : asciiDigit c = mark)
    (noDigit : mark.isDigit = false) : c = mark := by
  cases digit : digitValue? c with
  | none => simpa [asciiDigit, digit] using same
  | some d =>
    rw [asciiDigit_of_digit digit] at same
    rw [← same, (digitChar_of_le (digitValue?_le digit)).1] at noDigit
    cases noDigit

end Digits

section Groups

theorem ungroup_digit {c : Char} (isDigit : c.isDigit) (after : Bool) (cs : List Char) :
    ungroup after (c :: cs) = (ungroup true cs).map (c :: ·) := by
  have noMark : c ≠ '_' := by
    rintro rfl
    cases isDigit
  rw [ungroup.eq_def]
  split
  · simp_all
  · simp_all
  · simp_all
  next same =>
    cases same
    rw [isDigit]

theorem ungroup_underscore {d : Char} (isDigit : d.isDigit) (cs : List Char) :
    ungroup true ('_' :: d :: cs) = ungroup false (d :: cs) := by
  rw [ungroup, if_pos isDigit]

theorem Grouped.exists_cons {cs : List Char} {ds : List Nat} (grouped : Grouped cs ds) :
    ∃ c d rest, cs = c :: rest ∧ digitValue? c = some d := by
  cases grouped with
  | last digit => exact ⟨_, _, _, rfl, digit⟩
  | next digit _ => exact ⟨_, _, _, rfl, digit⟩
  | split digit _ => exact ⟨_, _, _, rfl, digit⟩

theorem Grouped.digit_of_getLast? {cs : List Char} {ds : List Nat} (grouped : Grouped cs ds) :
    ∀ c ∈ cs.getLast?, ∃ d, digitValue? c = some d := by
  induction grouped with
  | last digit =>
    rintro c ⟨⟩
    exact ⟨_, digit⟩
  | next digit onward ih =>
    obtain ⟨c, d, rest, rfl, -⟩ := onward.exists_cons
    simpa [List.getLast?_cons_cons] using ih
  | split digit onward ih =>
    obtain ⟨c, d, rest, rfl, -⟩ := onward.exists_cons
    simpa [List.getLast?_cons_cons] using ih

theorem Grouped.ungroup {cs : List Char} {ds : List Nat} (grouped : Grouped cs ds) (after : Bool) :
    ungroup after (cs.map asciiDigit) = some (ds.map fun d => Char.ofNat (d + 48)) := by
  induction grouped generalizing after with
  | last digit =>
    have isDigit := (digitChar_of_le (digitValue?_le digit)).1
    simp [asciiDigit_of_digit digit, ungroup_digit isDigit, Number.ungroup]
  | next digit _ ih =>
    have isDigit := (digitChar_of_le (digitValue?_le digit)).1
    simp [asciiDigit_of_digit digit, ungroup_digit isDigit, ih]
  | split digit onward ih =>
    have isDigit := (digitChar_of_le (digitValue?_le digit)).1
    obtain ⟨c, d, rest, rfl, starts⟩ := onward.exists_cons
    have follows : (asciiDigit c).isDigit := by
      rw [asciiDigit_of_digit starts]
      exact (digitChar_of_le (digitValue?_le starts)).1
    have mark : asciiDigit '_' = '_' := by decide
    have later := ih false
    rw [List.map_cons] at later
    simp [asciiDigit_of_digit digit, ungroup_digit isDigit, mark, ungroup_underscore follows, later]

theorem grouped_of_ungroup {after : Bool} {cs xs kept : List Char}
    (same : cs.map asciiDigit = xs) (ungrouped : ungroup after xs = some kept)
    (digits : ∀ c ∈ kept, c.isDigit) :
    cs = [] ∧ kept = [] ∨ Grouped cs (kept.map (·.toNat - 48)) ∨
      after = true ∧ ∃ rest, cs = '_' :: rest ∧ Grouped rest (kept.map (·.toNat - 48)) := by
  fun_induction ungroup after xs generalizing cs kept with
  | case1 =>
    cases ungrouped
    exact .inl ⟨List.map_eq_nil_iff.1 same, rfl⟩
  | case2 d rest isDigit ih =>
    obtain ⟨mark, others, rfl, isMark, rest⟩ := List.map_eq_cons_iff.1 same
    obtain rfl := eq_of_asciiDigit_eq isMark (by decide)
    rcases ih rest ungrouped digits with ⟨rfl, -⟩ | grouped | ⟨no, -⟩
    · cases rest
    · exact .inr (.inr ⟨rfl, others, rfl, grouped⟩)
    · cases no
  | case3 => cases ungrouped
  | case4 => cases ungrouped
  | case5 after c rest noMark _ ih =>
    obtain ⟨later, onward, rfl⟩ := Option.map_eq_some_iff.1 ungrouped
    obtain ⟨first, others, rfl, rfl, rest⟩ := List.map_eq_cons_iff.1 same
    obtain ⟨isDigit, digits⟩ := List.forall_mem_cons.1 digits
    have digit := exists_digit isDigit
    refine .inr (.inl ?_)
    rcases ih rest onward digits with ⟨rfl, rfl⟩ | grouped | ⟨-, others, rfl, grouped⟩
    · exact .last digit
    · exact .next digit grouped
    · exact .split digit grouped

theorem Grouped.small {cs : List Char} {ds : List Nat} (grouped : Grouped cs ds) :
    ∀ d ∈ ds, d ≤ 9 := by
  induction grouped with
  | last digit => simpa using digitValue?_le digit
  | next digit _ ih => exact List.forall_mem_cons.2 ⟨digitValue?_le digit, ih⟩
  | split digit _ ih => exact List.forall_mem_cons.2 ⟨digitValue?_le digit, ih⟩

theorem natOfDigits_eq (cs : List Char) :
    natOfDigits cs = ofDigitValues (cs.map (·.toNat - 48)) := by
  rw [natOfDigits, ofDigitValues, List.foldl_map]

theorem grouped_of_digits {cs : List Char} (held : cs ≠ []) (digits : ∀ c ∈ cs, c.isDigit) :
    Grouped cs (cs.map (·.toNat - 48)) := by
  induction cs with
  | nil => exact absurd rfl held
  | cons c rest ih =>
    obtain ⟨isDigit, digits⟩ := List.forall_mem_cons.1 digits
    cases rest with
    | nil => exact .last (digitValue?_of_isDigit isDigit)
    | cons d more => exact .next (digitValue?_of_isDigit isDigit) (ih (by simp) digits)

end Groups

section Padding

variable {before kept after cs : List Char}

theorem exists_padding (cs : List Char) :
    ∃ before after, cs = before ++ unpad cs ++ after ∧ ∀ c ∈ before ++ after, isPadding c := by
  obtain ⟨start, finish⟩ :
      (∀ c ∈ cs.takeWhile isPadding, isPadding c) ∧
        ∀ c ∈ ((cs.dropWhile isPadding).reverse.takeWhile isPadding).reverse, isPadding c :=
    ⟨fun _ => List.mem_takeWhile_imp,
      fun _ found => List.mem_takeWhile_imp (List.mem_reverse.1 found)⟩
  refine ⟨_, _, ?_, List.forall_mem_append.2 ⟨start, finish⟩⟩
  rw [unpad, List.append_assoc, ← List.reverse_append, List.takeWhile_append_dropWhile,
    List.reverse_reverse, List.takeWhile_append_dropWhile]

theorem unpad_padded (padding : ∀ c ∈ before ++ after, isPadding c)
    (start : ∀ c ∈ kept.head?, isPadding c = false)
    (finish : ∀ c ∈ kept.getLast?, isPadding c = false) (held : kept ≠ []) :
    unpad (before ++ kept ++ after) = kept := by
  obtain ⟨inFront, behind⟩ := List.forall_mem_append.1 padding
  have starts : ∀ c ∈ (kept ++ after).head?, isPadding c = false := by
    rwa [List.head?_append_of_ne_nil _ held]
  have ends : ∀ c ∈ kept.reverse.head?, isPadding c = false := by simpa using finish
  have reversed : ∀ c ∈ after.reverse, isPadding c := by simpa using behind
  rw [unpad, List.append_assoc, List.dropWhile_append_of_pos inFront, dropWhile_eq_self starts,
    List.reverse_append, List.dropWhile_append_of_pos reversed, dropWhile_eq_self ends,
    List.reverse_reverse]

end Padding

section Signs

theorem splitSign_cases (cs : List Char) :
    ∃ sign, (sign, (splitSign cs).1) ∈ signs ∧ cs = sign ++ (splitSign cs).2 := by
  unfold splitSign
  split
  · exact ⟨['-'], by simp [signs], rfl⟩
  · exact ⟨['+'], by simp [signs], rfl⟩
  · exact ⟨[], by simp [signs], rfl⟩

theorem splitSign_signed {sign digits : List Char} {negative : Bool} {c : Char}
    (isSign : (sign, negative) ∈ signs) (isDigit : c.isDigit) :
    splitSign (sign ++ c :: digits) = (negative, c :: digits) := by
  have noSign : c ≠ '-' ∧ c ≠ '+' := by
    constructor <;> (rintro rfl; cases isDigit)
  simp only [signs, List.mem_cons, Prod.mk.injEq, List.not_mem_nil, or_false] at isSign
  rcases isSign with ⟨rfl, rfl⟩ | ⟨rfl, rfl⟩ | ⟨rfl, rfl⟩
  · unfold splitSign
    split <;> simp_all
  · rfl
  · rfl

theorem map_asciiDigit_sign {sign : List Char} {negative : Bool}
    (isSign : (sign, negative) ∈ signs) : sign.map asciiDigit = sign := by
  have each : ∀ entry ∈ signs, entry.1.map asciiDigit = entry.1 := by decide
  exact each _ isSign

theorem eq_sign_of_map {cs sign : List Char} {negative : Bool}
    (isSign : (sign, negative) ∈ signs) (same : cs.map asciiDigit = sign) : cs = sign := by
  simp only [signs, List.mem_cons, Prod.mk.injEq, List.not_mem_nil, or_false] at isSign
  rcases isSign with ⟨rfl, -⟩ | ⟨rfl, -⟩ | ⟨rfl, -⟩
  · exact List.map_eq_nil_iff.1 same
  · obtain ⟨c, rfl, mark⟩ := List.map_eq_singleton_iff.1 same
    rw [eq_of_asciiDigit_eq mark (by decide)]
  · obtain ⟨c, rfl, mark⟩ := List.map_eq_singleton_iff.1 same
    rw [eq_of_asciiDigit_eq mark (by decide)]

theorem sign_not_padding {sign : List Char} {negative : Bool} (isSign : (sign, negative) ∈ signs) :
    ∀ c ∈ sign, isPadding c = false := by
  have each : ∀ entry ∈ signs, entry.1.any isPadding = false := by decide
  simpa using each _ isSign

end Signs

-- Neither a sign nor a digit is white space, so that it ends there.
theorem unpad_numeral {before sign digits after : List Char} {negative : Bool} {ds : List Nat}
    (padding : ∀ c ∈ before ++ after, isPadding c) (isSign : (sign, negative) ∈ signs)
    (grouped : Grouped digits ds) :
    unpad (before ++ (sign ++ digits) ++ after) = sign ++ digits := by
  obtain ⟨c, d, rest, rfl, digit⟩ := grouped.exists_cons
  refine unpad_padded padding (fun first found => ?_) (fun final found => ?_) (by simp)
  · cases sign with
    | nil =>
      cases found
      exact digitValue?_not_padding digit
    | cons mark others =>
      cases found
      exact sign_not_padding isSign _ List.mem_cons_self
  · rw [List.getLast?_append_of_ne_nil _ (by simp)] at found
    obtain ⟨e, digit⟩ := grouped.digit_of_getLast? final found
    exact digitValue?_not_padding digit

-- Numerals of whatever length.
theorem readInteger?_grouped {text : String} {before sign digits after : List Char}
    {negative : Bool} {ds : List Nat} (spelled : text.toList = before ++ (sign ++ digits) ++ after)
    (padding : ∀ c ∈ before ++ after, isPadding c) (isSign : (sign, negative) ∈ signs)
    (grouped : Grouped digits ds) :
    readInteger? text =
      if maxIntegerDigits < ds.length then none
      else some (applySign negative (ofDigitValues ds)) := by
  have ungrouped := grouped.ungroup false
  have held : ds ≠ [] := by cases grouped <;> simp
  have noOther : ¬ ∃ d ∈ ds, (Char.ofNat (d + 48)).isDigit = false := by
    rintro ⟨d, member, other⟩
    rw [(digitChar_of_le (grouped.small d member)).1] at other
    cases other
  have value : natOfDigits (ds.map fun d => Char.ofNat (d + 48)) = ofDigitValues ds := by
    rw [natOfDigits_eq, List.map_map]
    congr 1
    refine (List.map_congr_left fun d member => ?_).trans (List.map_id ds)
    exact (digitChar_of_le (grouped.small d member)).2
  have isSplit : splitSign ((sign ++ digits).map asciiDigit) =
      (negative, digits.map asciiDigit) := by
    obtain ⟨c, d, rest, rfl, starts⟩ := grouped.exists_cons
    rw [List.map_append, map_asciiDigit_sign isSign]
    refine splitSign_signed isSign ?_
    rw [asciiDigit_of_digit starts]
    exact (digitChar_of_le (digitValue?_le starts)).1
  rw [readInteger?, spelled, unpad_numeral padding isSign grouped, isSplit]
  simp [ungrouped, value, held, noOther]

theorem readInteger?_eq_some_iff {text : String} {n : Int} :
    readInteger? text = some n ↔ Numeral text.toList n := by
  constructor
  case mpr =>
    generalize spelled : text.toList = cs
    rintro ⟨padding, isSign, grouped, short⟩
    rw [readInteger?_grouped spelled padding isSign grouped, if_neg (Nat.not_lt.2 short)]
  intro reads
  obtain ⟨before, after, split, padding⟩ := exists_padding text.toList
  obtain ⟨sign, isSign, signed⟩ := splitSign_cases ((unpad text.toList).map asciiDigit)
  obtain ⟨mark, body, parts, isMark, isBody⟩ := List.map_eq_append_iff.1 signed
  obtain rfl := eq_sign_of_map isSign isMark
  obtain ⟨kept, ungrouped, checked⟩ := Option.bind_eq_some_iff.1 reads
  split at checked
  · cases checked
  next fits =>
    cases checked
    simp only [Bool.or_eq_true, not_or, List.isEmpty_iff, List.any_eq_true, decide_eq_true_eq,
      Nat.not_lt] at fits
    obtain ⟨⟨held, others⟩, short⟩ := fits
    have digits : ∀ c ∈ kept, c.isDigit := by simpa using others
    have grouped : Grouped body (kept.map (·.toNat - 48)) := by
      rcases grouped_of_ungroup isBody ungrouped digits with ⟨-, empty⟩ | grouped | ⟨no, -⟩
      · exact absurd empty held
      · exact grouped
      · cases no
    have numeral := Numeral.intro padding isSign grouped (by simpa using short)
    rwa [← parts, ← split, ← natOfDigits_eq] at numeral

theorem readInteger?_toString (n : Nat) :
    readInteger? (toString n) =
      if maxIntegerDigits < (toString n).length then none else some (n : Int) := by
  have spelled : (toString n).toList = Nat.toDigits 10 n := by simp
  have isDigit : ∀ c ∈ Nat.toDigits 10 n, c.isDigit :=
    fun _ => Nat.isDigit_of_mem_toDigits (by decide) (by decide)
  have grouped := grouped_of_digits Nat.toDigits_ne_nil isDigit
  have value : ofDigitValues ((Nat.toDigits 10 n).map (·.toNat - 48)) = n := by
    rw [← natOfDigits_eq]
    exact Nat.ofDigitChars_ten_toDigits
  have whole : (toString n).toList = [] ++ ([] ++ Nat.toDigits 10 n) ++ [] := by simp
  have unsigned : ([], false) ∈ signs := by simp [signs]
  rw [readInteger?_grouped whole nofun unsigned grouped, value, List.length_map, ← spelled,
    String.length_toList]
  rfl

end ApiCatalog.Number
