import ApiCatalog.Document.Records
import ApiCatalog.Proofs.RecordLaws

/-!
Checking undoes dumping: a document that was written as data is read back as it was, under
whichever names, and with nulls or without.
-/

set_option autoImplicit false

namespace ApiCatalog

section Keys

def Key.Apart (a b : Key) : Prop :=
  a.outward ≠ b.outward ∧ a.outward ≠ b.plain ∧ a.plain ≠ b.outward ∧ a.plain ≠ b.plain

instance (a b : Key) : Decidable (a.Apart b) := inferInstanceAs (Decidable (_ ∧ _ ∧ _ ∧ _))

def Spelling.of (spelling : Spelling) (key : Key) : String :=
  if spelling.isOutward then key.outward else key.plain

def Spelling.entries (spelling : Spelling) (rows : List (Key × Option Value)) : Entries :=
  rows.filterMap fun row => row.2.map fun value => (.text (spelling.of row.1), value)

variable {spelling : Spelling} {key : Key} {value : Option Value}
  {rows : List (Key × Option Value)}

theorem Entries.get?_text (name other : String) (v : Value) (rest : Entries) :
    Entries.get? name ((.text other, v) :: rest) =
      if other = name then some v else Entries.get? name rest := by
  simp only [Entries.get?_cons, Scalar.text.injEq]

theorem Spelling.entries_absent (spelling : Spelling) (key : Key)
    (rows : List (Key × Option Value)) :
    spelling.entries ((key, none) :: rows) = spelling.entries rows := rfl

theorem Spelling.entries_present (spelling : Spelling) (key : Key) (v : Value)
    (rows : List (Key × Option Value)) :
    spelling.entries ((key, some v) :: rows) =
      (.text (spelling.of key), v) :: spelling.entries rows := rfl

theorem Spelling.of_eq_or (spelling : Spelling) (key : Key) :
    spelling.of key = key.outward ∨ spelling.of key = key.plain := by
  unfold Spelling.of
  split <;> simp

theorem Key.Apart.of_ne {a b : Key} (apart : a.Apart b) (spelling : Spelling) :
    spelling.of a ≠ b.outward ∧ spelling.of a ≠ b.plain := by
  obtain ⟨outward, crossed, crossed', plain⟩ := apart
  rcases spelling.of_eq_or a with isName | isName <;> rw [isName]
  · exact ⟨outward, crossed⟩
  · exact ⟨crossed', plain⟩

theorem Key.Apart.symm {a b : Key} (apart : a.Apart b) : b.Apart a :=
  ⟨apart.1.symm, apart.2.2.1.symm, apart.2.1.symm, apart.2.2.2.symm⟩

theorem Key.get?_entries_of_apart (spelling : Spelling) (apart : ∀ row ∈ rows, row.1.Apart key) :
    Entries.get? key.outward (spelling.entries rows) = none ∧
      Entries.get? key.plain (spelling.entries rows) = none := by
  induction rows with
  | nil => exact ⟨rfl, rfl⟩
  | cons row rest ih =>
    obtain ⟨other, v⟩ := row
    obtain ⟨first, others⟩ := List.forall_mem_cons.1 apart
    obtain ⟨notOutward, notPlain⟩ := first.of_ne spelling
    cases v with
    | none => exact ih others
    | some v =>
      rw [Spelling.entries_present, Entries.get?_text, Entries.get?_text, if_neg notOutward,
        if_neg notPlain]
      exact ih others

theorem Key.find?_cons_of_apart {other : Key} (apart : other.Apart key) (v : Option Value) :
    key.find? (spelling.entries ((other, v) :: rows)) = key.find? (spelling.entries rows) := by
  obtain ⟨notOutward, notPlain⟩ := apart.of_ne spelling
  cases v with
  | none => rfl
  | some v =>
    simp only [Spelling.entries_present, Key.find?, Entries.get?_text, if_neg notOutward,
      if_neg notPlain]

theorem Key.find?_cons_self (apart : ∀ row ∈ rows, row.1.Apart key) :
    key.find? (spelling.entries ((key, value) :: rows)) = value.map (spelling.of key, ·) := by
  obtain ⟨notOutward, notPlain⟩ := Key.get?_entries_of_apart spelling apart
  cases value with
  | none => simp [Spelling.entries_absent, Key.find?, notOutward, notPlain]
  | some v =>
    -- Under its plain name a member is only looked for after its outward one.
    simp only [Spelling.entries_present, Key.find?, Entries.get?_text, notOutward, notPlain]
    rcases spelling.of_eq_or key with isName | isName
    · simp [isName]
    · by_cases same : key.plain = key.outward <;> simp [isName, same]

theorem Key.find?_entries (apart : (rows.map Prod.fst).Pairwise Key.Apart)
    (held : (key, value) ∈ rows) :
    key.find? (spelling.entries rows) = value.map (spelling.of key, ·) := by
  induction rows with
  | nil => simp at held
  | cons row rest ih =>
    obtain ⟨other, v⟩ := row
    rw [List.map_cons, List.pairwise_cons] at apart
    obtain ⟨first, others⟩ := apart
    rcases List.mem_cons.1 held with isFirst | isLater
    · cases isFirst
      exact find?_cons_self fun row isLater => (first _ (List.mem_map_of_mem isLater)).symm
    · rw [find?_cons_of_apart (first key (List.mem_map_of_mem isLater)) v, ih others isLater]

end Keys

section Declarations

theorem Item.eq_null {item : Item} (isNull : item.isNull) : item = .null := by
  cases item with
  | scalar s => cases s <;> first | rfl | cases isNull
  | _ => cases isNull

theorem Item.mem_scalars_list {items : List Item} {s : Scalar} :
    s ∈ (Item.list items).scalars ↔ ∃ item ∈ items, s ∈ item.scalars := by
  rw [Item.scalars]
  induction items with
  | nil => simp [Item.scalarsOfItems]
  | cons item rest ih => simp [Item.scalarsOfItems, ih]

theorem Item.mem_scalars_of {name : RecordName} {items : List Item} {s : Scalar} :
    s ∈ (Item.of name items).scalars ↔
      ∃ m item, (m, item) ∈ name.members.zip items ∧ s ∈ item.scalars := by
  rw [Item.of, Item.scalars, List.zip_map_left]
  induction name.members.zip items with
  | nil => simp [Item.scalarsOfMembers]
  | cons row rest ih =>
    rw [List.map_cons, Prod.map, Item.scalarsOfMembers, List.mem_append, ih]
    simp [List.mem_cons, or_and_right, exists_or, Prod.ext_iff, and_assoc]

def Shape.isOptional : Shape → Bool
  | .optional _ => true
  | _ => false

namespace Member

def key (m : Member) : Key := ⟨RecordLibrary.camelCase m.words, m.name⟩

def isSound (m : Member) : Bool :=
  m.words != [] && m.words.all RecordLibrary.isWord &&
    (!m.shape.isOptional || m.default.any Item.isNull)

theorem default_of_optional {m : Member} (sound : m.isSound) (optional : m.shape.isOptional) :
    m.default = some .null := by
  simp only [isSound, optional, Bool.not_true, Bool.false_or, Bool.and_eq_true,
    Option.any_eq_true] at sound
  obtain ⟨-, item, default, isNull⟩ := sound
  rw [default, Item.eq_null isNull]

end Member

namespace RecordName

theorem members_sound (name : RecordName) : name.members.all Member.isSound := by
  cases name <;> decide +kernel

theorem members_apart (name : RecordName) :
    (name.members.map Member.key).Pairwise Key.Apart := by
  cases name <;> decide +kernel

end RecordName

end Declarations

inductive Fits : Shape → Item → Prop
  | plain {kind : Plain} {s : Scalar} (exact : kind.isExact s) : Fits (.plain kind) (.scalar s)
  | union {kinds : List Plain} {kind : Plain} {s : Scalar}
      (first : kinds.find? (·.isExact s) = some kind) : Fits (.union kinds) (.scalar s)
  | choice {names : List String} {name : String} (known : name ∈ names) :
      Fits (.choice names) (.choice name)
  | absent {shape : Shape} : Fits (.optional shape) .null
  | present {shape : Shape} {item : Item} (fits : Fits shape item) (present : item.isNull = false) :
      Fits (.optional shape) item
  | list {shape : Shape} {items : List Item} (each : ∀ item ∈ items, Fits shape item) :
      Fits (.list shape) (.list items)
  | record {name : RecordName} {items : List Item} (complete : items.length = name.members.length)
      (each : ∀ row ∈ name.members.zip items, Fits row.1.shape row.2) :
      Fits (.record name) (.of name items)

namespace Fits

theorem of_each {name : RecordName} {items : List Item}
    (each : List.Forall₂ (fun (m : Member) item => Fits m.shape item) name.members items) :
    Fits (.record name) (.of name items) := by
  obtain ⟨complete, each⟩ := List.forall₂_iff_zip.1 each
  exact record complete.symm fun _ isRow => each isRow

theorem isOptional_of_isNull {shape : Shape} {item : Item} (fits : Fits shape item)
    (isNull : item.isNull) : shape.isOptional := by
  rw [Item.eq_null isNull] at fits
  cases fits with
  | @plain kind _ exact => cases kind <;> cases exact
  | @union kinds kind _ first =>
    have exact := List.find?_some first
    cases kind <;> cases exact
  | absent => rfl
  | present _ present => cases present

end Fits

namespace RecordLibrary

variable {lib : RecordLibrary} (laws : lib.Laws) (spelling : Spelling)

include laws

theorem Laws.key_eq {m : Member} (sound : m.isSound) : lib.key m = m.key := by
  simp only [Member.isSound, Bool.and_eq_true, bne_iff_ne] at sound
  rw [key, Member.key, Member.name, laws.outward_words _ sound.1.1 sound.1.2]

theorem Laws.dump_ne_null {item : Item} (finite : ∀ s ∈ item.scalars, s.isFinite)
    (present : item.isNull = false) : lib.dump spelling item ≠ .null := by
  cases item with
  | scalar s =>
    rw [laws.dump_scalar _ _ (finite s List.mem_cons_self)]
    rintro ⟨⟩
    cases present
  | choice name =>
    rw [laws.dump_choice]
    exact nofun
  | list items =>
    rw [laws.dump_list]
    exact nofun
  | record name members =>
    rw [laws.dump_record]
    exact nofun

def written? (lib : RecordLibrary) (spelling : Spelling) (item : Item) : Option Value :=
  if spelling.keepsAbsent || !item.isNull then some (lib.dump spelling item) else none

-- What a record is dumped as, member by member.
def rows (lib : RecordLibrary) (spelling : Spelling) (members : List Member) (items : List Item) :
    List (Key × Option Value) :=
  (members.zip items).map fun row => (lib.key row.1, lib.written? spelling row.2)

theorem Laws.dump_of (name : RecordName) (items : List Item) :
    lib.dump spelling (.of name items) =
      .mapping (spelling.entries (lib.rows spelling name.members items)) := by
  rw [Item.of, laws.dump_record, List.zip_map_left, rows]
  congr 1
  induction name.members.zip items with
  | nil => rfl
  | cons row rest ih =>
    rw [List.map_cons, List.filter_cons, List.map_cons, written?]
    dsimp only [Prod.map, id]
    split
    · rw [Spelling.entries_present, List.map_cons, ih]
      rfl
    · rw [Spelling.entries_absent, ih]

theorem Laws.find?_rows {name : RecordName} {items : List Item}
    (complete : items.length = name.members.length) {m : Member} {item : Item}
    (isRow : (m, item) ∈ name.members.zip items) :
    (lib.key m).find? (spelling.entries (lib.rows spelling name.members items)) =
      (lib.written? spelling item).map (spelling.of (lib.key m), ·) := by
  refine Key.find?_entries ?_ (List.mem_map_of_mem isRow)
  have keys : name.members.map lib.key = name.members.map Member.key :=
    List.map_congr_left fun m isMember =>
      laws.key_eq (List.all_eq_true.1 name.members_sound m isMember)
  have firsts : (lib.rows spelling name.members items).map Prod.fst = name.members.map lib.key := by
    conv_rhs => rw [← List.map_fst_zip (Nat.le_of_eq complete.symm)]
    rw [rows, List.map_map, List.map_map]
    rfl
  rw [firsts, keys]
  exact name.members_apart

theorem Laws.takes_rows {name : RecordName} {items : List Item}
    (complete : items.length = name.members.length) {m : Member} {item : Item}
    (isRow : (m, item) ∈ name.members.zip items) (fits : Fits m.shape item)
    (checked : lib.check m.shape (lib.dump spelling item) = .ok item) :
    lib.Takes (spelling.entries (lib.rows spelling name.members items)) m item := by
  have found := laws.find?_rows spelling complete isRow
  rw [written?] at found
  split at found
  · exact .inl ⟨_, _, found, checked⟩
  · rename_i unwritten
    simp only [Bool.or_eq_true, Bool.not_eq_true', not_or, Bool.not_eq_false] at unwritten
    have isNull := unwritten.2
    have sound := List.all_eq_true.1 name.members_sound m (List.of_mem_zip isRow).1
    rw [Item.eq_null isNull]
    exact .inr ⟨found, Member.default_of_optional sound (fits.isOptional_of_isNull isNull)⟩

-- What fits is read back from its dump.
theorem Laws.check_dump {shape : Shape} {item : Item} (fits : Fits shape item)
    (finite : ∀ s ∈ item.scalars, s.isFinite) :
    lib.check shape (lib.dump spelling item) = .ok item := by
  induction fits with
  | @plain kind s exact =>
    have finite := finite s List.mem_cons_self
    rw [laws.dump_scalar _ _ finite, laws.check_exact _ _ exact finite]
  | @union kinds kind s first =>
    have exact := List.find?_some first
    have finite := finite s List.mem_cons_self
    rw [laws.dump_scalar _ _ finite, laws.check_union _ _ _ first,
      laws.check_exact _ _ exact finite]
  | choice known => rw [laws.dump_choice, laws.check_choice _ _ known]
  | absent => rw [laws.dump_scalar _ _ rfl, laws.check_null]
  | present _ present ih =>
    rw [laws.check_present _ _ (laws.dump_ne_null spelling finite present), ih finite]
  | list each ih =>
    rw [laws.dump_list]
    refine laws.check_list _ _ _ (List.forall₂_map_left_iff.2 (List.forall₂_same.2 ?_))
    intro item isIn
    exact ih item isIn fun s isOf => finite s (Item.mem_scalars_list.2 ⟨item, isIn, isOf⟩)
  | @record name items complete each ih =>
    rw [laws.dump_of]
    refine laws.check_record _ _ _ (List.forall₂_iff_zip.2 ⟨complete.symm, ?_⟩)
    intro m item isRow
    refine laws.takes_rows spelling complete isRow (each _ isRow) (ih _ isRow fun s isOf => ?_)
    exact finite s (Item.mem_scalars_of.2 ⟨m, item, isRow, isOf⟩)

end RecordLibrary

structure Represents {α : Type} (shape : Shape) (object : α → Item) (read : Item → Option α) :
    Prop where
  fits (a : α) : Fits shape (object a)
  isNull_object (a : α) : (object a).isNull = false
  read_object (a : α) : read (object a) = some a

namespace Represents

variable {α : Type} {shape : Shape} {object : α → Item} {read : Item → Option α}

theorem fits_option (represents : Represents shape object read) (a : Option α) :
    Fits (.optional shape) (.ofOption object a) := by
  cases a with
  | none => exact .absent
  | some a => exact .present (represents.fits a) (represents.isNull_object a)

theorem option?_ofOption (represents : Represents shape object read) (a : Option α) :
    (Item.ofOption object a).option? read = some a := by
  cases a with
  | none => rfl
  | some a =>
    change Item.option? read (object a) = _
    rw [Item.option?, represents.isNull_object, represents.read_object]
    rfl

theorem list (represents : Represents shape object read) :
    Represents (.list shape) (Item.ofList object) (Item.list? read) where
  fits items := by
    refine .list fun item isIn => ?_
    obtain ⟨a, -, rfl⟩ := List.mem_map.1 isIn
    exact represents.fits a
  isNull_object _ := rfl
  read_object items := by
    rw [Item.ofList, Item.list?]
    induction items with
    | nil => rfl
    | cons a rest ih => rw [List.map_cons, List.mapM_cons, represents.read_object, ih]; rfl

theorem text : Represents (.plain .text) Item.text Item.text? :=
  ⟨fun _ => .plain rfl, fun _ => rfl, fun _ => rfl⟩

theorem flag : Represents (.plain .flag) Item.flag Item.flag? :=
  ⟨fun _ => .plain rfl, fun _ => rfl, fun _ => rfl⟩

theorem literal : Represents (.union [.strictFlag, .number, .strictText]) Literal.object
    Literal.ofObject? where
  fits literal := by cases literal <;> exact .union rfl
  isNull_object literal := by cases literal <;> rfl
  read_object literal := by cases literal <;> rfl

theorem fieldType : Represents (.choice ["string", "number", "boolean", "array", "object"])
    (fun type : FieldType => .choice type.name) Item.fieldType? where
  fits type := by cases type <;> exact .choice (by decide)
  isNull_object _ := rfl
  read_object type := by cases type <;> rfl

end Represents

@[simp]
theorem Item.text?_text (s : String) : (Item.text s).text? = some s := rfl

@[simp]
theorem Item.flag?_flag (b : Bool) : (Item.flag b).flag? = some b := rfl

@[simp]
theorem Item.optionalText?_optionalText (s : Option String) :
    (Item.optionalText s).optionalText? = some s :=
  Represents.text.option?_ofOption s

section Schemas

mutual
theorem Field.fits : (f : Field) → Fits (.record .field) f.object
  | ⟨_, type, _, nested, mock, sample, comment, _⟩ =>
    .of_each (.cons (.plain rfl) (.cons (Represents.fieldType.fits type) (.cons (.plain rfl)
      (.cons (nested_fits nested) (.cons (Represents.literal.fits_option mock)
        (.cons (Represents.literal.fits_option sample)
          (.cons (Represents.text.fits_option comment) (.cons (.plain rfl) .nil))))))))

theorem nested_fits : (nested : Option (FieldBlock Field)) →
    Fits (.optional (.record .schema)) (nestedObject nested)
  | none => .absent
  | some block => .present (FieldBlock.fits block) (by cases block; rfl)

theorem FieldBlock.fits : (block : FieldBlock Field) → Fits (.record .schema) block.object
  | ⟨fields, _⟩ =>
    .of_each (.cons (.list (fields_fit fields)) (.cons (.plain rfl) .nil))

theorem fields_fit : (fields : List Field) →
    ∀ item ∈ fieldObjects fields, Fits (.record .field) item
  | [] => nofun
  | f :: rest => List.forall_mem_cons.2 ⟨Field.fits f, fields_fit rest⟩
end

mutual
theorem Field.ofObject?_object : (f : Field) → Field.ofObject? f.object = some f
  | ⟨name, type, optional, nested, mock, sample, comment, isParameter⟩ => by
    simp [Field.object, Item.of, RecordName.members, Field.ofObject?,
      Represents.fieldType.read_object type, nestedOfObject?_nestedObject nested,
      Represents.literal.option?_ofOption]

theorem nestedOfObject?_nestedObject : (nested : Option (FieldBlock Field)) →
    nestedOfObject? (nestedObject nested) = some nested
  | none => rfl
  | some ⟨fields, optional⟩ => by
    simp [nestedObject, FieldBlock.object, Item.of, RecordName.members, nestedOfObject?,
      fieldsOfObjects?_fieldObjects fields]

theorem fieldsOfObjects?_fieldObjects : (fields : List Field) →
    fieldsOfObjects? (fieldObjects fields) = some fields
  | [] => rfl
  | f :: rest => by
    simp [fieldObjects, fieldsOfObjects?, Field.ofObject?_object f,
      fieldsOfObjects?_fieldObjects rest]
end

end Schemas

namespace Represents

theorem schema : Represents (.record .schema) Schema.object Schema.ofObject? where
  fits := FieldBlock.fits
  isNull_object block := by cases block; rfl
  read_object block := by
    have nested : nestedOfObject? block.object = some (some block) :=
      nestedOfObject?_nestedObject (some block)
    rw [Schema.ofObject?, nested]
    rfl

theorem field : Represents (.record .field) Field.object Field.ofObject? :=
  ⟨Field.fits, fun f => by cases f; rfl, Field.ofObject?_object⟩

theorem configVariable :
    Represents (.record .configVariable) Variable.object Variable.ofObject? where
  fits v := .of_each (.cons (.plain rfl) (.cons (.plain rfl)
    (.cons (text.fits_option v.default) .nil)))
  isNull_object _ := rfl
  read_object v := by
    simp [Variable.object, Item.of, RecordName.members, Variable.ofObject?]

theorem header : Represents (.record .header) Header.object Header.ofObject? where
  fits h := .of_each (.cons (.plain rfl) (.cons (text.fits_option h.default) .nil))
  isNull_object _ := rfl
  read_object h := by
    simp [Header.object, Item.of, RecordName.members, Header.ofObject?]

theorem config : Represents (.record .config) Config.object Config.ofObject? where
  fits c := .of_each (.cons (text.list.fits c.baseUrls) (.cons (.plain rfl) (.cons (.plain rfl)
    (.cons (configVariable.list.fits c.vars) (.cons (header.list.fits c.headers) .nil)))))
  isNull_object _ := rfl
  read_object c := by
    simp [Config.object, Item.of, RecordName.members, Config.ofObject?, text.list.read_object,
      configVariable.list.read_object, header.list.read_object]

theorem method : Represents (.record .method) Method.object Method.ofObject? where
  fits m := .of_each (.cons (.plain rfl) (.cons (text.fits_option m.name)
    (.cons (text.fits_option m.description) (.cons (schema.fits_option m.request)
      (.cons (schema.fits_option m.response) .nil)))))
  isNull_object _ := rfl
  read_object m := by
    simp [Method.object, Item.of, RecordName.members, Method.ofObject?, schema.option?_ofOption]

theorem api : Represents (.record .api) Api.object Api.ofObject? where
  fits a := .of_each (.cons (.plain rfl) (.cons (method.list.fits a.methods) .nil))
  isNull_object _ := rfl
  read_object a := by
    simp [Api.object, Item.of, RecordName.members, Api.ofObject?, method.list.read_object]

theorem socketEvent :
    Represents (.record .socketEvent) SocketEvent.object SocketEvent.ofObject? where
  fits e := .of_each (.cons (.plain rfl) (.cons (schema.fits_option e.request)
    (.cons (schema.fits_option e.response) .nil)))
  isNull_object _ := rfl
  read_object e := by
    simp [SocketEvent.object, Item.of, RecordName.members, SocketEvent.ofObject?,
      schema.option?_ofOption]

theorem socket : Represents (.record .socket) Socket.object Socket.ofObject? where
  fits s := .of_each (.cons (.plain rfl) (.cons (text.fits_option s.name)
    (.cons (text.fits_option s.description) (.cons (schema.fits_option s.auth)
      (.cons (schema.fits_option s.connectHeaders)
        (.cons (socketEvent.list.fits s.events) .nil))))))
  isNull_object _ := rfl
  read_object s := by
    simp [Socket.object, Item.of, RecordName.members, Socket.ofObject?, schema.option?_ofOption,
      socketEvent.list.read_object]

theorem streamEvent :
    Represents (.record .streamEvent) StreamEvent.object StreamEvent.ofObject? where
  fits e := .of_each (.cons (.plain rfl) (.cons (field.list.fits e.fields) .nil))
  isNull_object _ := rfl
  read_object e := by
    simp [StreamEvent.object, Item.of, RecordName.members, StreamEvent.ofObject?,
      field.list.read_object]

theorem eventStream :
    Represents (.record .eventStream) EventStream.object EventStream.ofObject? where
  fits s := .of_each (.cons (.plain rfl) (.cons (text.fits_option s.name)
    (.cons (text.fits_option s.description) (.cons (schema.fits_option s.request)
      (.cons (streamEvent.list.fits s.events) .nil)))))
  isNull_object _ := rfl
  read_object s := by
    simp [EventStream.object, Item.of, RecordName.members, EventStream.ofObject?,
      schema.option?_ofOption, streamEvent.list.read_object]

end Represents

section Categories

mutual
theorem Category.fits : (c : Category) → Fits (.record .category) c.object
  | ⟨_, name, description, basePath, apis, sockets, eventSockets, streams, children⟩ =>
    .of_each (.cons (.plain rfl) (.cons (Represents.text.fits_option name)
      (.cons (Represents.text.fits_option description)
        (.cons (Represents.text.fits_option basePath) (.cons (Represents.api.list.fits apis)
          (.cons (Represents.socket.list.fits sockets)
            (.cons (Represents.socket.list.fits eventSockets)
              (.cons (Represents.eventStream.list.fits streams)
                (.cons (.list (categories_fit children)) .nil)))))))))

theorem categories_fit : (cs : List Category) →
    ∀ item ∈ categoryObjects cs, Fits (.record .category) item
  | [] => nofun
  | c :: rest => List.forall_mem_cons.2 ⟨Category.fits c, categories_fit rest⟩
end

mutual
theorem Category.ofObject?_object : (c : Category) → Category.ofObject? c.object = some c
  | ⟨id, name, description, basePath, apis, sockets, eventSockets, streams, children⟩ => by
    simp [Category.object, Item.of, RecordName.members, RecordName.blocks, Category.ofObject?,
      Represents.api.list.read_object, Represents.socket.list.read_object,
      Represents.eventStream.list.read_object, categoriesOfObjects?_categoryObjects children]

theorem categoriesOfObjects?_categoryObjects : (cs : List Category) →
    categoriesOfObjects? (categoryObjects cs) = some cs
  | [] => rfl
  | c :: rest => by
    simp [categoryObjects, categoriesOfObjects?, Category.ofObject?_object c,
      categoriesOfObjects?_categoryObjects rest]
end

end Categories

namespace Document

theorem fits (d : Document) : Fits (.record .document) d.object :=
  .of_each (.cons (Represents.config.fits_option d.config)
    (.cons (Represents.text.list.fits d.imports) (.cons (Represents.api.list.fits d.apis)
      (.cons (Represents.socket.list.fits d.sockets)
        (.cons (Represents.socket.list.fits d.eventSockets)
          (.cons (Represents.eventStream.list.fits d.streams)
            (.cons (.list (categories_fit d.categories)) .nil)))))))

theorem ofObject?_object (d : Document) : Document.ofObject? d.object = some d := by
  simp [Document.object, Item.of, RecordName.members, RecordName.blocks, Document.ofObject?,
    Represents.config.option?_ofOption, Represents.text.list.read_object,
    Represents.api.list.read_object, Represents.socket.list.read_object,
    Represents.eventStream.list.read_object, categoriesOfObjects?_categoryObjects]

/-- A document is what checking makes of its dump, in any spelling, by whatever library of
records. -/
theorem check_undoes_dump (lib : RecordLibrary) (laws : lib.Laws) (spelling : Spelling)
    (d : Document) (finite : ∀ s ∈ d.object.scalars, s.isFinite) :
    lib.check (.record .document) (lib.dump spelling d.object) = .ok d.object ∧
      Document.ofObject? d.object = some d :=
  ⟨laws.check_dump spelling d.fits finite, d.ofObject?_object⟩

def mockedDocument : Document :=
  let fields : List Field :=
    [{ name := "on", type := .boolean, mock := some (.bool true) },
      { name := "word", mock := some (.text "true"), sample := some (.text "1") },
      { name := "part", type := .number, sample := some (.number (.ofRatio false 1 2)) }]
  { categories := [{ id := "cat-a-1", streams := [{ path := "/s", events := [⟨"e", fields⟩] }] }] }

theorem check_undoes_dump_mocked :
    (∀ s ∈ mockedDocument.object.scalars, s.isFinite) ∧
      RecordLibrary.standard.check (.record .document)
          (RecordLibrary.standard.dump .outward mockedDocument.object) =
        .ok mockedDocument.object ∧
      Document.ofObject? mockedDocument.object = some mockedDocument :=
  have finite : ∀ s ∈ mockedDocument.object.scalars, s.isFinite := by decide +kernel
  ⟨finite, check_undoes_dump .standard RecordLibrary.standard_laws .outward mockedDocument finite⟩

end Document

end ApiCatalog
