import ApiCatalog.Proofs.BlockReadings

/-!
Reading what documents and categories hold alike: endpoints, and trees of categories that are
numbered as they are met.
-/

set_option autoImplicit false

namespace ApiCatalog

open DocumentReader

-- Readers that differ in the endpoints read so far, which a document or a category takes up.
structure Collects (hold : Services → DocumentReader) : Prop where
  between : ∀ e, (hold e).between = hold e
  addApi : ∀ e api, ((hold e).addApi api).between = hold { e with apis := e.apis ++ [api] }
  addSocket : ∀ e socket,
    ((hold e).addSocket .plain socket).between = hold { e with sockets := e.sockets ++ [socket] }
  addEventSocket : ∀ e socket, ((hold e).addSocket .eventBased socket).between =
    hold { e with eventSockets := e.eventSockets ++ [socket] }
  addStream : ∀ e stream,
    ((hold e).addStream stream).between = hold { e with streams := e.streams ++ [stream] }

theorem reads_all {A : Type} {pieces : A → List Piece}
    {add : DocumentReader → A → DocumentReader} (hold : List A → DocumentReader)
    (between : ∀ before, (hold before).between = hold before)
    (adds : ∀ before a, (add (hold before) a).between = hold (before ++ [a])) {items : List A}
    (each : ∀ a ∈ items, ∀ r, Reads Anything r.between (pieces a) (add r a).between) :
    Reads Anything (hold []) (items.flatMap pieces) (hold items) := by
  refine .flatMap hold (fun _ _ _ => trivial) fun before a found => ?_
  have read := each a found (hold before)
  rwa [between, adds] at read

theorem Services.Expressible.reads {hold : Services → DocumentReader} (collects : Collects hold)
    {e : Services} (expressible : e.Expressible) :
    Reads Anything (hold ⟨[], [], [], []⟩) e.pieces (hold e) := by
  obtain ⟨eachApi, eachSocket, eachEventSocket, eachStream⟩ := expressible
  obtain ⟨apis, sockets, eventSockets, streams⟩ := e
  have ofApis := reads_all (fun apis => hold ⟨apis, [], [], []⟩) (fun _ => collects.between _)
    (fun _ _ => collects.addApi _ _) fun a found r => (eachApi a found).reads r
  have ofSockets := reads_all (fun sockets => hold ⟨apis, sockets, [], []⟩)
    (fun _ => collects.between _) (fun _ _ => collects.addSocket _ _)
    fun s found r => (eachSocket s found).reads r .plain
  have ofEventSockets := reads_all (fun eventSockets => hold ⟨apis, sockets, eventSockets, []⟩)
    (fun _ => collects.between _) (fun _ _ => collects.addEventSocket _ _)
    fun s found r => (eachEventSocket s found).reads r .eventBased
  have ofStreams := reads_all (fun streams => hold ⟨apis, sockets, eventSockets, streams⟩)
    (fun _ => collects.between _) (fun _ _ => collects.addStream _ _)
    fun s found r => (eachStream s found).reads r
  exact ((ofApis.andThen ofSockets).andThen ofEventSockets).andThen ofStreams

def DocumentReader.inside (r : DocumentReader) (c : Category) (next : Nat) : DocumentReader :=
  ⟨r.document, c :: r.enclosing, next, none, .entries⟩

-- Readers that differ in the categories read so far, which a document or a category takes up,
-- and in the number of the next one.
structure Nests (hold : List Category → Nat → DocumentReader) : Prop where
  between : ∀ cs n, (hold cs n).between = hold cs n
  nextId : ∀ cs n, (hold cs n).nextId = n
  close : ∀ cs n c m, ((hold cs n).inside c m).closeCategory.between = hold (cs ++ [c]) m

theorem nests_inside (r : DocumentReader) (c : Category) :
    Nests fun children n => r.inside { c with children } n where
  between _ _ := rfl
  nextId _ _ := rfl
  close _ _ _ _ := rfl

section Labels

theorem labelOfId_numbered (label : String) (n : Nat) : labelOfId s!"cat-{label}-{n}" = label := by
  have spelled : s!"cat-{label}-{n}".toList =
      ['c', 'a', 't', '-'] ++ (label.toList ++ '-' :: Nat.toDigits 10 n) := by simp [toString]
  -- The label itself may have dashes: only the last one comes before the number.
  rw [labelOfId, spelled]
  simp [List.dropWhile_append_of_pos (toDigits_ne_dash n)]

theorem Numbered.head {first : Nat} {c : Category} {rest : List Category}
    (numbered : Numbered first (c :: rest)) :
    ∃ label, isQuotable label ∧ c.id = s!"cat-{label}-{first}" := numbered 0 c rfl

theorem Numbered.tail {first : Nat} {c : Category} {rest : List Category}
    (numbered : Numbered first (c :: rest)) : Numbered (first + 1) rest := by
  intro i d found
  obtain ⟨label, quotable, isId⟩ := numbered (i + 1) d found
  exact ⟨label, quotable, by rw [isId, Nat.add_right_comm, Nat.add_assoc]⟩

theorem Numbered.append {first : Nat} {before after : List Category}
    (numbered : Numbered first (before ++ after)) :
    Numbered first before ∧ Numbered (first + before.length) after := by
  constructor
  · intro i c found
    have held : i < before.length := (List.getElem?_eq_some_iff.1 found).1
    exact numbered i c (by rw [List.getElem?_append_left held, found])
  · intro i c found
    have placed : (before ++ after)[before.length + i]? = some c := by
      rw [List.getElem?_append_right (Nat.le_add_right _ _), Nat.add_sub_cancel_left, found]
    obtain ⟨label, quotable, isId⟩ := numbered _ c placed
    exact ⟨label, quotable, by rw [isId, Nat.add_assoc]⟩

end Labels

section Entries

variable (r : DocumentReader) (id : String) (n : Nat)

theorem reads_categoryKey (c : Category) {place : Place} {key : String} (isWord : isWord key.toList)
    (isKey : categoryPlace? none key = some place) :
    Reads Anything (r.inside c n) [.word key] ((r.inside c n).enter place) :=
  reads_statement (r.inside c n) isWord isKey

theorem reads_categoryTexts {name description basePath : Option String}
    (names : ∀ s ∈ name, isQuotable s) (descriptions : ∀ s ∈ description, isQuotable s)
    (basePaths : ∀ s ∈ basePath, isQuotable s) :
    Reads Anything (r.inside { id } n)
      (textEntry "name" name ++ textEntry "desc" description ++ textEntry "prefix" basePath)
      (r.inside { id, name, description, basePath } n) := by
  have named : Reads Anything (r.inside { id } n) (textEntry "name" name)
      (r.inside { id, name } n) :=
    reads_text (fun name => r.inside { id, name } n)
      ((r.inside { id } n).enter .categoryLabel) names
      (reads_categoryKey r n _ (by decide) (by simp [categoryPlace?])) fun _ _ _ => rfl
  have described : Reads Anything (r.inside { id, name } n) (textEntry "desc" description)
      (r.inside { id, name, description } n) :=
    reads_text (fun description => r.inside { id, name, description } n)
      ((r.inside { id, name } n).enter .categoryDescription) descriptions
      (reads_categoryKey r n _ (by decide) (by simp [categoryPlace?])) fun _ _ _ => rfl
  have based : Reads Anything (r.inside { id, name, description } n) (textEntry "prefix" basePath)
      (r.inside { id, name, description, basePath } n) :=
    reads_text (fun basePath => r.inside { id, name, description, basePath } n)
      ((r.inside { id, name, description } n).enter .categoryBasePath) basePaths
      (reads_categoryKey r n _ (by decide) (by simp [categoryPlace?])) fun _ _ _ => rfl
  exact (named.andThen described).andThen based

theorem collects_inside (name description basePath : Option String) :
    Collects fun e => r.inside ⟨id, name, description, basePath, e.apis, e.sockets, e.eventSockets,
      e.streams, []⟩ n where
  between _ := rfl
  addApi _ _ := rfl
  addSocket _ _ := rfl
  addEventSocket _ _ := rfl
  addStream _ _ := rfl

theorem reads_categoryHead {hold : List Category → Nat → DocumentReader} (nests : Nests hold)
    (before : List Category) {label : String} (quotable : isQuotable label) :
    Reads Anything (hold before n) [.word "category", .quoted label]
      ((hold before n).enter (.categoryOpening label)) := by
  have stated : Reads Anything ((hold before n).holding none) [.word "category"]
      ((hold before n).enter .categoryName) :=
    reads_statement _ (by decide) (place?_endpoint _ (by simp [endpointPlace?]))
  have labelled : Reads Anything ((hold before n).enter .categoryName) [.quoted label]
      ((hold before n).enter (.categoryOpening label)) := .step quotable fun _ _ => rfl
  have whole := stated.andThen labelled
  rwa [show (hold before n).holding none = hold before n from nests.between before n] at whole

theorem steps_openCategory (label : String) :
    Steps (r.enter (.categoryOpening label)) (.mark .openBrace)
      (r.inside { id := s!"cat-{label}-{r.nextId}" } (r.nextId + 1)) :=
  fun _ _ => rfl

theorem steps_closeCategory (c : Category) :
    Steps (r.inside c n) (.mark .closeBrace) (r.inside c n).closeCategory.between :=
  fun _ _ => rfl

end Entries

-- By recursion over the trees. What is around a category is only known to take it up, so that the
-- same statement serves inside of documents and of other categories.
mutual
theorem Category.reads : (c : Category) → (hold : List Category → Nat → DocumentReader) →
    Nests hold → ∀ before n, (∀ k ∈ c.preorder, k.Expressible) → Numbered n c.preorder →
    Reads Anything (hold before n) c.pieces (hold (before ++ [c]) (n + c.preorder.length))
  | ⟨id, name, description, basePath, apis, sockets, eventSockets, streams, children⟩ => by
    intro hold nests before n expressible numbered
    rw [Category.preorder] at expressible numbered
    obtain ⟨own, others⟩ := List.forall_mem_cons.1 expressible
    obtain ⟨label, quotable, isId⟩ := numbered.head
    change id = s!"cat-{label}-{n}" at isId
    have isLabel : labelOfId id = label := by rw [isId, labelOfId_numbered]
    let r := hold before n
    have texts := reads_categoryTexts r id (n + 1) own.name own.description own.basePath
    have offered := own.services.reads (collects_inside r id (n + 1) name description basePath)
    -- The number of the category is used up before those of its children.
    have nested := reads_categories children _
      (nests_inside r ⟨id, name, description, basePath, apis, sockets, eventSockets, streams, []⟩)
      [] (n + 1) others numbered.tail
    have inside := (texts.andThen offered).andThen nested
    have opened : Steps (r.enter (.categoryOpening label)) (.mark .openBrace)
        (r.inside { id } (n + 1)) := by
      have opens := steps_openCategory r label
      rwa [nests.nextId, ← isId] at opens
    have closed := steps_closeCategory r (n + 1 + (preorders children).length) ⟨id, name,
      description, basePath, apis, sockets, eventSockets, streams, children⟩
    rw [nests.close] at closed
    rw [Category.pieces, isLabel, Category.preorder, List.length_cons, Nat.add_comm _ 1,
      ← Nat.add_assoc]
    exact (reads_categoryHead n nests before quotable).andThen
      (.braced opened inside closed fun _ => trivial)

theorem reads_categories : (cs : List Category) → (hold : List Category → Nat → DocumentReader) →
    Nests hold → ∀ before n, (∀ k ∈ preorders cs, k.Expressible) → Numbered n (preorders cs) →
    Reads Anything (hold before n) (categoryPieces cs)
      (hold (before ++ cs) (n + (preorders cs).length))
  | [] => by
    intro hold nests before n _ _
    simpa [preorders, categoryPieces] using Reads.nothing _
  | c :: rest => by
    intro hold nests before n expressible numbered
    rw [preorders] at expressible numbered
    obtain ⟨first, others⟩ := List.forall_mem_append.1 expressible
    obtain ⟨ownNumbers, otherNumbers⟩ := numbered.append
    have head := Category.reads c hold nests before n first ownNumbers
    have tail := reads_categories rest hold nests (before ++ [c]) _ others otherNumbers
    simpa [categoryPieces, preorders, Nat.add_assoc] using head.andThen tail
end

end ApiCatalog
