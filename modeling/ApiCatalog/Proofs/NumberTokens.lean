import ApiCatalog.Document.Reader
import ApiCatalog.Proofs.Numerals
import ApiCatalog.Proofs.Tilings

/-!
The numbers of a text. A number token is the longest numeral at its place, and every numeral of this
form has a value, so that nothing has to stand in for the number of an annotation.
-/

set_option autoImplicit false

namespace ApiCatalog

open Number

/-- A text starts with a numeral, and with no longer one. -/
structure IsLongest (literal text : List Char) : Prop where
  numeral : IsNumeral literal
  starts : literal <+: text
  longest : ∀ other, IsNumeral other → other <+: text → other <+: literal

-- How many characters stand after the point.
def places (cs : List Char) : Nat := (cs.dropWhile (· != '.')).tail.length

-- The number that a numeral spells: its digits, moved behind the point by as many places as
-- there are digits after it.
def decimalValue (cs : List Char) : Binary64 :=
  .ofDecimal (cs.head? == some '-') (natOfDigits (cs.filter Char.isDigit)) (-(places cs))

section Shape

variable {cs literal more : List Char} {c d : Char}

theorem IsDecimal.shape (decimal : IsDecimal cs) :
    (∀ c ∈ cs, c.isDigit ∨ c = '.') ∧ cs.count '.' ≤ 1 := by
  have noPoint {digits : List Char} (isDigit : ∀ c ∈ digits, c.isDigit) : digits.count '.' = 0 :=
    List.count_eq_zero.2 fun member => absurd (isDigit '.' member) (by decide)
  cases decimal with
  | whole held isDigit =>
    exact ⟨fun c member => .inl (isDigit c member), noPoint isDigit ▸ Nat.zero_le 1⟩
  | pointed held isDigit fractional =>
    refine ⟨fun c member => ?_, ?_⟩
    · rcases List.mem_append.1 member with whole | behind
      · exact .inl (isDigit c whole)
      · exact (List.mem_cons.1 behind).symm.imp_left (fractional c)
    · rw [List.count_append, List.count_cons_self, noPoint isDigit, noPoint fractional]

theorem IsNumeral.shape (numeral : IsNumeral (c :: cs)) :
    (∀ d ∈ cs, d.isDigit ∨ d = '.') ∧ (c :: cs).count '.' ≤ 1 := by
  cases numeral with
  | plain decimal =>
    obtain ⟨each, few⟩ := decimal.shape
    exact ⟨(List.forall_mem_cons.1 each).2, few⟩
  | negative decimal =>
    obtain ⟨each, few⟩ := decimal.shape
    exact ⟨each, by rwa [List.count_cons_of_ne (by decide)]⟩

-- What a numeral may go on with.
theorem IsNumeral.next (numeral : IsNumeral literal) (longer : IsNumeral (literal ++ d :: more)) :
    d.isDigit ∨ d = '.' ∧ '.' ∉ literal := by
  obtain ⟨c, rest, rfl⟩ := List.exists_cons_of_ne_nil numeral.ne_nil
  rw [List.cons_append] at longer
  obtain ⟨each, few⟩ := longer.shape
  refine (each d (by simp)).imp_right fun isPoint => ⟨isPoint, fun earlier => ?_⟩
  subst isPoint
  have first : 0 < (c :: rest).count '.' := List.count_pos_iff.2 earlier
  rw [← List.cons_append, List.count_append, List.count_cons_self] at few
  omega

theorem Spells.isLongest {rest : List Char} (spells : Spells .number literal literal rest) :
    IsLongest literal (literal ++ rest) := by
  cases spells with
  | mark isMark => exact absurd (mark_kind isMark) (by decide)
  | number numeral ends =>
    refine ⟨numeral, List.prefix_append _ _, fun other isNumeral isPrefix => ?_⟩
    rcases List.prefix_or_prefix_of_prefix isPrefix (List.prefix_append literal rest) with
      shorter | ⟨more, rfl⟩
    · exact shorter
    · -- A longer one would have to go on with the character that ended this one.
      cases more with
      | nil => rw [List.append_nil]
      | cons d more =>
        obtain ⟨behind, rfl⟩ := (List.prefix_append_right_inj literal).1 isPrefix
        obtain ⟨noDigit, pointed⟩ := ends d rfl
        rcases numeral.next isNumeral with isDigit | ⟨isPoint, unpointed⟩
        · rw [isDigit] at noDigit
          cases noDigit
        · exact absurd (pointed isPoint) unpointed

theorem Spells.number_spelling {spelling rest : List Char}
    (spells : Spells .number literal spelling rest) : spelling = literal := by
  cases spells with
  | mark isMark => exact absurd (mark_kind isMark) (by decide)
  | number => rfl

end Shape

section Values

variable {cs digits fraction : List Char} {negative : Bool}

theorem asciiDigit_of_isDigit {c : Char} (isDigit : c.isDigit) : asciiDigit c = c := by
  have inside : 48 ≤ c.toNat := by
    simp only [Char.isDigit, Bool.and_eq_true, decide_eq_true_eq] at isDigit
    exact isDigit.1
  rw [asciiDigit_of_digit (digitValue?_of_isDigit isDigit), Nat.sub_add_cancel inside,
    Char.ofNat_toNat]

theorem ungroup_eq_self (plain : '_' ∉ cs) (after : Bool) : ungroup after cs = some cs := by
  induction cs generalizing after with
  | nil => rw [ungroup]
  | cons c rest ih =>
    obtain ⟨noMark, others⟩ := List.ne_and_not_mem_of_not_mem_cons plain
    have noMark' : c ≠ '_' := noMark.symm
    rw [ungroup.eq_4 _ _ _ noMark' fun _ _ _ => (absurd · noMark'), ih others]
    rfl

theorem readMantissa_whole (isDigit : ∀ c ∈ digits, c.isDigit) (held : digits ≠ []) :
    readMantissa digits = some (digits, 0, []) := by
  have whole : digits.takeWhile Char.isDigit = digits := List.takeWhile_eq_self_iff.2 isDigit
  have rest : digits.dropWhile Char.isDigit = [] := List.dropWhile_eq_nil_iff.2 isDigit
  simp [readMantissa, whole, rest, held]

theorem readMantissa_pointed (isDigit : ∀ c ∈ digits, c.isDigit) (held : digits ≠ [])
    (fractional : ∀ c ∈ fraction, c.isDigit) :
    readMantissa (digits ++ '.' :: fraction) = some (digits ++ fraction, fraction.length, []) := by
  have ends : ∀ c ∈ ('.' :: fraction).head?, c.isDigit = false := by
    rintro _ ⟨⟩
    decide
  have whole : (digits ++ '.' :: fraction).takeWhile Char.isDigit = digits :=
    takeWhile_run isDigit ends
  have rest : (digits ++ '.' :: fraction).dropWhile Char.isDigit = '.' :: fraction := by
    rw [List.dropWhile_append_of_pos isDigit, dropWhile_eq_self ends]
  have behind : fraction.takeWhile Char.isDigit = fraction :=
    List.takeWhile_eq_self_iff.2 fractional
  have last : fraction.dropWhile Char.isDigit = [] := List.dropWhile_eq_nil_iff.2 fractional
  simp [readMantissa, whole, rest, behind, last, held]

theorem readDecimal?_eq (negative : Bool) (decimal : IsDecimal cs) :
    readDecimal? negative cs =
      some (.ofDecimal negative (natOfDigits (cs.filter Char.isDigit)) (-(places cs))) := by
  have all {digits : List Char} (isDigit : ∀ c ∈ digits, c.isDigit) :
      digits.filter Char.isDigit = digits := List.filter_eq_self.2 isDigit
  have inFront {digits : List Char} (isDigit : ∀ c ∈ digits, c.isDigit) :
      ∀ c ∈ digits, (c != '.') = true := by
    intro c member
    rw [bne_iff_ne]
    rintro rfl
    exact absurd (isDigit '.' member) (by decide)
  cases decimal with
  | whole held isDigit =>
    have none : places cs = 0 := by
      rw [places, List.dropWhile_eq_nil_iff.2 (inFront isDigit)]
      rfl
    simp [readDecimal?, readMantissa_whole isDigit held, readExponent, all isDigit, none]
  | @pointed digits fraction held isDigit fractional =>
    have some : places (digits ++ '.' :: fraction) = fraction.length := by
      rw [places, List.dropWhile_append_of_pos (inFront isDigit)]
      rfl
    have kept : (digits ++ '.' :: fraction).filter Char.isDigit = digits ++ fraction := by
      rw [List.filter_append, all isDigit, List.filter_cons_of_neg (by decide), all fractional]
    simp [readDecimal?, readMantissa_pointed isDigit held fractional, readExponent, kept, some]

theorem readPlain?_eq {d : Char} {more : List Char} (isDigit : d.isDigit)
    (signed : splitSign cs = (negative, d :: more)) :
    readPlain? cs = readDecimal? negative (d :: more) := by
  have each : ∀ code ∈ List.range' 48 10,
      (Char.ofNat code).toLower ≠ 'i' ∧ (Char.ofNat code).toLower ≠ 'n' := by decide +kernel
  have inside : d.toNat ∈ List.range' 48 10 := by
    simp only [Char.isDigit, Bool.and_eq_true, decide_eq_true_eq] at isDigit
    simp only [List.mem_range'_1]
    exact ⟨isDigit.1, Nat.lt_succ_of_le isDigit.2⟩
  have apart := each _ inside
  rw [Char.ofNat_toNat] at apart
  have noWord {word : String} {c : Char} {cs : List Char} (spelled : word.toList = c :: cs)
      (other : d.toLower ≠ c) : String.ofList ((d :: more).map Char.toLower) ≠ word := by
    rintro rfl
    rw [String.toList_ofList, List.map_cons] at spelled
    exact other (List.cons.inj spelled).1
  simp only [readPlain?, signed]
  rw [if_neg (not_or.2 ⟨noWord rfl apart.1, noWord rfl apart.1⟩), if_neg (noWord rfl apart.2)]

theorem IsNumeral.chars (numeral : IsNumeral cs) :
    ∀ c ∈ cs, c.isDigit ∨ c = '-' ∨ c = '.' := by
  cases numeral with
  | plain decimal => exact fun c member => (decimal.shape.1 c member).imp_right .inr
  | negative decimal =>
    exact List.forall_mem_cons.2
      ⟨.inr (.inl rfl), fun c member => (decimal.shape.1 c member).imp_right .inr⟩

theorem IsNumeral.readPlain? (numeral : IsNumeral cs) :
    Number.readPlain? cs = some (decimalValue cs) := by
  cases numeral with
  | plain decimal =>
    have value := readDecimal?_eq false decimal
    obtain ⟨d, more, rfl, isDigit⟩ := decimal.starts
    have unsigned : (d == '-') = false := by
      rw [beq_eq_false_iff_ne]
      rintro rfl
      exact absurd isDigit (by decide)
    have isSign : ([], false) ∈ signs := by decide
    have signed : splitSign (d :: more) = (false, d :: more) := splitSign_signed isSign isDigit
    rw [readPlain?_eq isDigit signed, value]
    simp [decimalValue, unsigned]
  | @negative cs decimal =>
    have value := readDecimal?_eq true decimal
    have digits : ('-' :: cs).filter Char.isDigit = cs.filter Char.isDigit :=
      List.filter_cons_of_neg (by decide)
    have behind : places ('-' :: cs) = places cs := rfl
    obtain ⟨d, more, rfl, isDigit⟩ := decimal.starts
    rw [readPlain?_eq isDigit rfl, value, decimalValue, digits, behind]
    rfl

-- Every numeral has a value, and it is the one it spells.
theorem IsNumeral.read? {text : String} (numeral : IsNumeral text.toList) :
    Number.read? text = some (decimalValue text.toList) := by
  have chars := numeral.chars
  have inked : ∀ c ∈ text.toList, isPadding c = false := by
    intro c member
    rcases chars c member with isDigit | rfl | rfl
    · exact digitValue?_not_padding (digitValue?_of_isDigit isDigit)
    · decide
    · decide
  have unpadded : unpad text.toList = text.toList := by
    have nothing : ∀ c ∈ ([] ++ [] : List Char), isPadding c := by simp
    have kept := unpad_padded nothing (fun c found => inked c (List.mem_of_mem_head? found))
      (fun c found => inked c (List.mem_of_mem_getLast? found)) numeral.ne_nil
    simpa using kept
  have ascii : text.toList.map asciiDigit = text.toList := by
    refine (List.map_congr_left fun c member => ?_).trans (List.map_id _)
    rcases chars c member with isDigit | rfl | rfl
    · exact asciiDigit_of_isDigit isDigit
    · decide
    · decide
  have ungrouped : '_' ∉ text.toList := fun member => absurd (chars '_' member) (by decide)
  rw [Number.read?, unpadded, ascii, ungroup_eq_self ungrouped]
  exact numeral.readPlain?

end Values

section Annotations

/-! The schema that is being read, if there is one. -/

def MethodReader.schema? (r : MethodReader) : Option SchemaReader :=
  match r.place with
  | .payload _ reader => some reader
  | _ => none

def ApiReader.schema? (r : ApiReader) : Option SchemaReader :=
  match r.place with
  | .method reader => reader.schema?
  | _ => none

def SocketEventReader.schema? (r : SocketEventReader) : Option SchemaReader :=
  match r.place with
  | .payload _ reader => some reader
  | _ => none

def SocketReader.schema? (r : SocketReader) : Option SchemaReader :=
  match r.place with
  | .handshake _ reader => some reader
  | .event reader => reader.schema?
  | _ => none

def StreamReader.schema? (r : StreamReader) : Option SchemaReader :=
  match r.place with
  | .request reader | .event _ reader => some reader
  | _ => none

def DocumentReader.schema? (r : DocumentReader) : Option SchemaReader :=
  match r.place with
  | .api reader => reader.schema?
  | .socket _ reader => reader.schema?
  | .stream reader => reader.schema?
  | _ => none

/-- The next token is a number for an annotation, but cannot be read, so that zero stands in. -/
def DocumentReader.FallsBack (r : DocumentReader) (t : Token) : Prop :=
  ∃ schema fields field slot, r.schema? = some schema ∧ schema.place = .value fields field slot ∧
    t.kind = .number ∧ Number.read? t.literal = none

end Annotations

theorem TokenStream.isNumeral_of_mem {text : String} {t : Token}
    (found : t ∈ (TokenStream.ofText text).tokens) (isNumber : t.kind = .number) :
    IsNumeral t.literal.toList := by
  obtain ⟨spelling, rest, spells⟩ := spells_of_mem found
  rw [isNumber] at spells
  obtain rfl := spells.number_spelling
  exact spells.isLongest.numeral

/-- Each number of a text is the longest numeral at its place and is read as the number that it
spells, so that reading a document never falls back on zero. -/
theorem Document.ofText_numbers (text : String) :
    let stream := TokenStream.ofText text
    (∃ tiles last, Tiling 1 text.toList tiles last ∧ tiles.map Tile.token = stream.tokens ∧
      ∀ before tile after, tiles = before ++ tile :: after → tile.token.kind = .number →
        IsLongest tile.token.literal.toList (tile.spelling ++ tiledText after last)) ∧
    (∀ t ∈ stream.tokens, t.kind = .number →
      Number.read? t.literal = some (decimalValue t.literal.toList) ∧
        SchemaReader.literal? t = some (.number (decimalValue t.literal.toList))) ∧
    ∀ before t after r, stream.tokens = before ++ t :: after →
      DocumentReader.start.run 1 before = .ok r → ¬ r.FallsBack t := by
  intro stream
  refine ⟨?_, fun t found isNumber => ?_, ?_⟩
  · obtain ⟨tiles, last, tiling⟩ := exists_tiling 1 text.toList
    refine ⟨tiles, last, tiling, ?_, fun before tile after split isNumber => ?_⟩
    · simp [stream, TokenStream.ofText, tiling.scanFrom_eq]
    · have spells := (tiling.fits before tile after split).spells
      rw [isNumber] at spells
      have same := spells.number_spelling
      rw [same] at spells ⊢
      exact spells.isLongest
  · have reads := (TokenStream.isNumeral_of_mem found isNumber).read?
    exact ⟨reads, by simp [SchemaReader.literal?, isNumber, reads]⟩
  · rintro before t after r split - ⟨schema, fields, field, slot, -, -, isNumber, unread⟩
    have found : t ∈ stream.tokens := by rw [split]; simp
    rw [(TokenStream.isNumeral_of_mem found isNumber).read?] at unread
    cases unread

end ApiCatalog
