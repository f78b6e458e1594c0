import ApiCatalog.Proofs.BlockNesting
import ApiCatalog.Proofs.Endpoints

/-!
One counter numbers the categories of a document as they are opened. In pre-order their ids count
from one, each with the literal after its own keyword, and no two of them are the same.
-/

set_option autoImplicit false

namespace ApiCatalog

-- The ids of categories with these labels, numbered on from `first`.
def categoryIds (first : Nat) (labels : List String) : List String :=
  (labels.zipIdx first).map fun (label, n) => s!"cat-{label}-{n}"

theorem categoryIds_append (first : Nat) (labels more : List String) :
    categoryIds first (labels ++ more) =
      categoryIds first labels ++ categoryIds (first + labels.length) more := by
  simp [categoryIds, List.zipIdx_append]

theorem toDigits_ten_injective : Function.Injective (Nat.toDigits 10) := by
  intro m n same
  rw [← Nat.ofDigitChars_ten_toDigits (n := m), same, Nat.ofDigitChars_ten_toDigits]

theorem digitsOfId_category (label : String) (n : Nat) :
    Endpoint.digitsOfId s!"cat-{label}-{n}" = Nat.toDigits 10 n :=
  Endpoint.digitsOfId_numbered ("cat-" ++ label) n

theorem categoryIds_nodup (first : Nat) (labels : List String) :
    (categoryIds first labels).Nodup := by
  -- Labels may end in dashes and digits themselves, so only what follows the last dash counts.
  apply List.Nodup.of_map Endpoint.digitsOfId
  have digits : (categoryIds first labels).map Endpoint.digitsOfId =
      (List.range' first labels.length).map (Nat.toDigits 10) := by
    rw [← List.zipIdx_map_snd first labels, categoryIds, List.map_map, List.map_map]
    exact List.map_congr_left fun entry _ => digitsOfId_category entry.1 entry.2
  rw [digits]
  exact List.Nodup.map toDigits_ten_injective List.nodup_range'

section Preorders

@[simp]
theorem preorders_nil : preorders [] = [] := rfl

@[simp]
theorem preorders_cons (c : Category) (rest : List Category) :
    preorders (c :: rest) = c :: (preorders c.children ++ preorders rest) := by
  cases c
  rfl

@[simp]
theorem preorders_append (before after : List Category) :
    preorders (before ++ after) = preorders before ++ preorders after := by
  induction before with
  | nil => rfl
  | cons c rest ih => simp [ih]

end Preorders

namespace DocumentReader

-- The categories of the document so far, and the open ones from the outside in.
def openedIds (r : DocumentReader) : List String :=
  (preorders (r.document.categories ++ r.enclosing.reverse)).map (·.id)

-- A step that opens no category.
structure Keeps (r s : DocumentReader) : Prop where
  openedIds : s.openedIds = r.openedIds
  nextId : s.nextId = r.nextId

section Statements

variable (r : DocumentReader) (place : Place) (name : String)

@[simp]
theorem enter_place : (r.enter place).place = place := rfl

@[simp]
theorem enter_nextId : (r.enter place).nextId = r.nextId := rfl

@[simp]
theorem enter_openedIds : (r.enter place).openedIds = r.openedIds := rfl

@[simp]
theorem between_place : r.between.place = .entries := rfl

@[simp]
theorem between_nextId : r.between.nextId = r.nextId := rfl

@[simp]
theorem between_openedIds : r.between.openedIds = r.openedIds := rfl

@[simp]
theorem openCategory_nextId : (r.openCategory name).nextId = r.nextId + 1 := rfl

@[simp]
theorem openCategory_openedIds :
    (r.openCategory name).openedIds = r.openedIds ++ [s!"cat-{name}-{r.nextId}"] := by
  simp [openedIds, openCategory]

theorem keeps_modifyInnermost {f : Category → Category}
    (keeps : ∀ c, (f c).id = c.id ∧ (f c).children = c.children) :
    r.Keeps (r.modifyInnermost f) := by
  unfold modifyInnermost
  split
  next => exact ⟨rfl, rfl⟩
  next c outer enclosing =>
    refine ⟨?_, rfl⟩
    simp [openedIds, enclosing, keeps c]

theorem keeps_addApi (api : Api) : r.Keeps (r.addApi api) := by
  unfold addApi
  split
  · exact ⟨rfl, rfl⟩
  · exact r.keeps_modifyInnermost fun _ => ⟨rfl, rfl⟩

theorem keeps_addSocket (kind : SocketKind) (socket : Socket) :
    r.Keeps (r.addSocket kind socket) := by
  unfold addSocket
  split
  · exact ⟨rfl, rfl⟩
  · exact ⟨rfl, rfl⟩
  · exact r.keeps_modifyInnermost fun _ => ⟨rfl, rfl⟩
  · exact r.keeps_modifyInnermost fun _ => ⟨rfl, rfl⟩

theorem keeps_addStream (stream : EventStream) : r.Keeps (r.addStream stream) := by
  unfold addStream
  split
  · exact ⟨rfl, rfl⟩
  · exact r.keeps_modifyInnermost fun _ => ⟨rfl, rfl⟩

-- A category that is closed becomes the last child of the one around it, after which it stands in
-- pre-order already.
theorem keeps_closeCategory : r.Keeps r.closeCategory := by
  unfold closeCategory
  split
  next => exact ⟨rfl, rfl⟩
  next c enclosing =>
    refine ⟨?_, rfl⟩
    simp [openedIds, enclosing]
  next c parent outer enclosing =>
    refine ⟨?_, rfl⟩
    simp [openedIds, enclosing]

end Statements

-- The label of a category that waits for its opening brace.
def Place.label? : Place → Option String
  | .categoryOpening name => some name
  | _ => none

def isCategoryKeyword (t : Token) : Prop := t.kind = .identifier ∧ t.literal = "category"

/-- What a token does to the categories: it labels one, opens the one that is labelled, or leaves
them as they are and is the keyword of the next one at most. -/
inductive CategoryStep (t : Token) (r : DocumentReader) : DocumentReader → Prop
  | label (waits : r.place = .categoryName) :
      CategoryStep t r (r.enter (.categoryOpening t.literal))
  | opening {name : String} (waits : r.place = .categoryOpening name)
      (brace : t.kind = .openBrace) : CategoryStep t r (r.openCategory name).between
  | other {s : DocumentReader} (unnamed : r.place ≠ .categoryName)
      (unlabelled : r.place.label? = none) (keeps : r.Keeps s) (after : s.place.label? = none)
      (keyword : s.place = .categoryName → isCategoryKeyword t) : CategoryStep t r s

theorem endpointPlace?_category {doc : Option String} {keyword : String} {place : Place}
    (found : endpointPlace? doc keyword = some place) :
    place.label? = none ∧ (place = .categoryName → keyword = "category") := by
  unfold endpointPlace? at found
  split at found <;> cases found <;> simp [Place.label?]

theorem place?_category {r : DocumentReader} {keyword : String} {place : Place}
    (found : r.place? keyword = some place) :
    place.label? = none ∧ (place = .categoryName → keyword = "category") := by
  unfold place? at found
  split at found
  · unfold documentPlace? at found
    split at found
    case h_3 => exact endpointPlace?_category found
    all_goals cases found; exact ⟨rfl, nofun⟩
  · unfold categoryPlace? at found
    split at found
    case h_4 => exact endpointPlace?_category found
    all_goals cases found; exact ⟨rfl, nofun⟩

theorem CategoryStep.statement {t : Token} {r s : DocumentReader}
    (unnamed : r.place ≠ .categoryName) (unlabelled : r.place.label? = none) (keeps : r.Keeps s) :
    CategoryStep t r s.between :=
  .other unnamed unlabelled ⟨keeps.openedIds, keeps.nextId⟩ rfl nofun

theorem entry_category {r : DocumentReader} {t : Token} (unnamed : r.place ≠ .categoryName)
    (unlabelled : r.place.label? = none) : CategoryStep t r (r.entry t) := by
  have skipped : CategoryStep t r { r with place := .entries } :=
    .other unnamed unlabelled ⟨rfl, rfl⟩ rfl nofun
  unfold entry
  split
  next => exact .other unnamed unlabelled ⟨rfl, rfl⟩ rfl nofun
  next isWord =>
    split
    next place found =>
      obtain ⟨after, keyword⟩ := place?_category found
      exact .other unnamed unlabelled ⟨rfl, rfl⟩ after fun named => ⟨isWord, keyword named⟩
    next => exact skipped
  next =>
    split
    · exact skipped
    · exact .statement unnamed unlabelled r.keeps_closeCategory
  next => exact skipped

theorem step_category {lastLine : Nat} {r s : DocumentReader} {t : Token}
    (stepped : r.step lastLine t = .ok s) : CategoryStep t r s := by
  obtain ⟨document, enclosing, nextId, doc, place⟩ := r
  cases place with
  | entries =>
    cases stepped
    exact entry_category (by simp) rfl
  | importReference =>
    cases stepped
    exact .other (by simp) rfl ⟨rfl, rfl⟩ rfl (by simp)
  | categoryName =>
    cases stepped
    exact .label rfl
  | categoryOpening name =>
    obtain ⟨brace, rfl⟩ := Token.of_require stepped
    exact .opening rfl brace
  | categoryLabel | categoryDescription =>
    simp only [step] at stepped
    split at stepped <;> cases stepped
    · exact .statement (by simp) rfl (keeps_modifyInnermost _ fun _ => ⟨rfl, rfl⟩)
    · exact entry_category (by simp) rfl
  | categoryBasePath =>
    cases stepped
    exact .statement (by simp) rfl (keeps_modifyInnermost _ fun _ => ⟨rfl, rfl⟩)
  | config reader =>
    obtain ⟨progress, -, rfl⟩ := map_eq_ok.1 stepped
    cases progress <;> exact .other (by simp) rfl ⟨rfl, rfl⟩ rfl (by simp)
  | api reader =>
    obtain ⟨progress, -, rfl⟩ := map_eq_ok.1 stepped
    cases progress with
    | reading reader => exact .other (by simp) rfl ⟨rfl, rfl⟩ rfl (by simp)
    | finished api => exact .statement (by simp) rfl (keeps_addApi _ api)
  | socket kind reader =>
    obtain ⟨progress, -, rfl⟩ := map_eq_ok.1 stepped
    cases progress with
    | reading reader => exact .other (by simp) rfl ⟨rfl, rfl⟩ rfl (by simp)
    | finished socket => exact .statement (by simp) rfl (keeps_addSocket _ kind socket)
  | stream reader =>
    obtain ⟨progress, -, rfl⟩ := map_eq_ok.1 stepped
    cases progress with
    | reading reader => exact .other (by simp) rfl ⟨rfl, rfl⟩ rfl (by simp)
    | finished stream => exact .statement (by simp) rfl (keeps_addStream _ stream)

-- The literal of a token that is read as the label of a category.
def labelIn? (r : DocumentReader) (t : Token) : Option String :=
  match r.place with
  | .categoryName => some t.literal
  | _ => none

-- The labels of the categories that are met while some tokens are read.
def labels (lastLine : Nat) (r : DocumentReader) : List Token → List String
  | [] => []
  | t :: rest =>
    (r.labelIn? t).toList ++
      match r.step lastLine t with
      | .ok next => next.labels t.line rest
      | .error _ => []

-- The ids of the categories that have been met: one that is not open yet has its number already.
def metIds (r : DocumentReader) : List String :=
  r.openedIds ++ categoryIds r.nextId r.place.label?.toList

def nextLabel (r : DocumentReader) : Nat := r.nextId + r.place.label?.toList.length

theorem labelIn?_eq_none {r : DocumentReader} (unnamed : r.place ≠ .categoryName) (t : Token) :
    r.labelIn? t = none := by
  unfold labelIn?
  split
  next named => exact absurd named unnamed
  next => rfl

theorem CategoryStep.met {t : Token} {r s : DocumentReader} (step : CategoryStep t r s) :
    s.metIds = r.metIds ++ categoryIds r.nextLabel (r.labelIn? t).toList ∧
      s.nextLabel = r.nextLabel + (r.labelIn? t).toList.length := by
  cases step with
  | label waits => simp [metIds, nextLabel, labelIn?, waits, Place.label?, categoryIds]
  | opening waits => simp [metIds, nextLabel, labelIn?, waits, Place.label?, categoryIds]
  | other unnamed unlabelled keeps after =>
    simp [metIds, nextLabel, labelIn?_eq_none unnamed, unlabelled, after, keeps.openedIds,
      keeps.nextId, categoryIds]

theorem run_metIds {tokens : List Token} {line : Nat} {r s : DocumentReader}
    (read : r.run line tokens = .ok s) :
    s.metIds = r.metIds ++ categoryIds r.nextLabel (r.labels line tokens) := by
  induction tokens generalizing line r with
  | nil =>
    cases read
    simp [labels, categoryIds]
  | cons t rest ih =>
    obtain ⟨next, stepped, further⟩ := bind_eq_ok.1 read
    obtain ⟨ids, number⟩ := (step_category stepped).met
    rw [ih further, labels, stepped, categoryIds_append, ids, number, List.append_assoc]

end DocumentReader

/-- Tokens with the labels of some headings among them: a keyword, a label and an opening brace. -/
inductive Headings : List Token → List String → Prop
  | nil : Headings [] []
  | skip (t : Token) {tokens : List Token} {labels : List String}
      (further : Headings tokens labels) : Headings (t :: tokens) labels
  | heading {keyword brace : Token} (label : Token) {tokens : List Token} {labels : List String}
      (isKeyword : DocumentReader.isCategoryKeyword keyword) (isBrace : brace.kind = .openBrace)
      (further : Headings tokens labels) :
      Headings (keyword :: label :: brace :: tokens) (label.literal :: labels)

namespace DocumentReader

-- The tokens of a heading that have been read when the reader stands inside of it.
inductive Begun (place : Place) : List Token → Prop
  | none (unnamed : place ≠ .categoryName) (unlabelled : place.label? = none) : Begun place []
  | keyword {t : Token} (waits : place = .categoryName) (isKeyword : isCategoryKeyword t) :
      Begun place [t]
  | label {t label : Token} (waits : place = .categoryOpening label.literal)
      (isKeyword : isCategoryKeyword t) : Begun place [t, label]

theorem run_headings {tokens begun : List Token} {line : Nat} {r s : DocumentReader}
    (read : r.run line tokens = .ok s) (unnamed : s.place ≠ .categoryName)
    (unlabelled : s.place.label? = none) (starts : Begun r.place begun) :
    Headings (begun ++ tokens) (r.place.label?.toList ++ r.labels line tokens) := by
  induction tokens generalizing line r begun with
  | nil =>
    cases read
    cases starts with
    | none => simpa [unlabelled, labels] using Headings.nil
    | keyword waits => exact absurd waits unnamed
    | label waits => simp [waits, Place.label?] at unlabelled
  | cons t rest ih =>
    obtain ⟨next, stepped, further⟩ := bind_eq_ok.1 read
    rw [labels, stepped]
    cases step_category stepped with
    | label named =>
      cases starts with
      | none unnamed => exact absurd named unnamed
      | keyword _ isKeyword =>
        have inside := ih further (.label rfl isKeyword)
        simpa [named, labelIn?, Place.label?] using inside
      | label waits => simp [named] at waits
    | opening labelled brace =>
      cases starts with
      | none _ unlabelled => simp [labelled, Place.label?] at unlabelled
      | keyword waits => simp [labelled] at waits
      | @label _ label waits isKeyword =>
        have after := ih further (.none (by simp) rfl)
        have whole := after.heading label isKeyword brace
        simpa [waits, labelIn?, Place.label?] using whole
    | other unnamed unlabelled keeps after keyword =>
      cases starts with
      | none =>
        by_cases named : next.place = .categoryName
        · have inside := ih further (.keyword named (keyword named))
          simpa [labelIn?_eq_none unnamed, unlabelled, after] using inside
        · have inside := ih further (.none named after)
          simpa [labelIn?_eq_none unnamed, unlabelled, after] using inside.skip t
      | keyword waits => exact absurd waits unnamed
      | label waits => simp [waits, Place.label?] at unlabelled

theorem finish_openedIds {r : DocumentReader} {endLine : Nat} {d : Document}
    (outside : r.place = .importReference → r.enclosing = [])
    (finished : r.finish endLine = .ok d) :
    r.place ≠ .categoryName ∧ r.place.label? = none ∧
      (preorders d.categories).map (·.id) = r.openedIds := by
  obtain ⟨document, enclosing, nextId, doc, place⟩ := r
  cases place with
  | entries =>
    cases enclosing with
    | nil =>
      cases finished
      exact ⟨nofun, rfl, by simp [openedIds]⟩
    | cons category outer => cases finished
  | importReference =>
    obtain rfl : enclosing = [] := outside rfl
    cases finished
    exact ⟨nofun, rfl, by simp [openedIds, addImport]⟩
  | _ => cases finished

end DocumentReader

/-- The categories of a document that is read have the ids `cat-<label>-1`, `cat-<label>-2` and so
on in pre-order. The labels are those met in the tokens, each after its keyword and before the
brace that opens the category. -/
theorem Document.ofText_categoryIds {text : String} {d : Document}
    (parsed : Document.ofText text = .ok d) :
    let tokens := (TokenStream.ofText text).tokens
    let labels := DocumentReader.start.labels 1 tokens
    (preorders d.categories).map (·.id) = categoryIds 1 labels ∧ Headings tokens labels ∧
      ((preorders d.categories).map (·.id)).Nodup := by
  intro tokens labels
  obtain ⟨r, read, finished⟩ := bind_eq_ok.1 parsed
  have outside := DocumentReader.run_import (fun _ => rfl) read
  obtain ⟨unnamed, unlabelled, categories⟩ := DocumentReader.finish_openedIds outside finished
  have ids : (preorders d.categories).map (·.id) = categoryIds 1 labels := by
    -- At the end no category waits for its brace, so that those met are those opened.
    have opened : r.metIds = r.openedIds := by simp [DocumentReader.metIds, unlabelled, categoryIds]
    rw [categories, ← opened, DocumentReader.run_metIds read]
    rfl
  refine ⟨ids, ?_, ?_⟩
  · exact DocumentReader.run_headings read unnamed unlabelled (.none nofun rfl)
  · rw [ids]
    exact categoryIds_nodup 1 labels

-- Labels that repeat, and that end as the number of another category does. The first keyword is
-- the reference of an import.
def repeatingText : String :=
  "import category a \x7b category a \x7b category a-1 \x7b \x7d \x7d skip category 'a-1' \x7b \x7d"

theorem Document.ofText_categoryIds_repeating :
    ∃ d, Document.ofText repeatingText = .ok d ∧
      (preorders d.categories).map (·.id) = ["cat-a-1", "cat-a-1-2", "cat-a-1-3"] ∧
      Headings (TokenStream.ofText repeatingText).tokens ["a", "a-1", "a-1"] ∧
      ((preorders d.categories).map (·.id)).Nodup := by
  have read : (Document.ofText repeatingText).map (·.imports) = .ok ["category"] := by
    decide +kernel
  have labels : DocumentReader.start.labels 1 (TokenStream.ofText repeatingText).tokens =
      ["a", "a-1", "a-1"] := by decide +kernel
  obtain ⟨d, parsed, -⟩ := map_eq_ok.1 read
  obtain ⟨ids, headings, distinct⟩ := Document.ofText_categoryIds parsed
  rw [labels] at ids headings
  exact ⟨d, parsed, ids.trans (by decide +kernel), headings, distinct⟩

end ApiCatalog
