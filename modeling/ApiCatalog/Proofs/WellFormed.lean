import ApiCatalog.Proofs.CommentTexts
import ApiCatalog.Proofs.Printer

/-!
What holds of every document that has been read, whatever the text was, and of the values that its
parts are made from.
-/

set_option autoImplicit false

namespace ApiCatalog

open Text

section Documents

/-- A field has a block if and only if it is an object, and then both are optional or neither. -/
inductive Field.WellFormed : Field → Prop
  | intro {f : Field} (name : f.name ≠ "") (isObject : f.nested.isSome ↔ f.type = .object)
      (optional : ∀ block ∈ f.nested, f.optional = block.optional)
      (comment : ∀ s ∈ f.comment, isOneLine s)
      (fields : ∀ block ∈ f.nested, ∀ g ∈ block.fields, WellFormed g) : WellFormed f

def Schema.WellFormed (schema : Schema) : Prop := ∀ f ∈ schema.fields, f.WellFormed

def Method.verbs : List String := ["GET", "POST", "PUT", "DELETE", "PATCH"]

structure Method.WellFormed (m : Method) : Prop where
  verb : m.verb ∈ verbs
  description : ∀ s ∈ m.description, IsDocText s
  request : ∀ schema ∈ m.request, schema.WellFormed
  response : ∀ schema ∈ m.response, schema.WellFormed

def Api.WellFormed (a : Api) : Prop := ∀ m ∈ a.methods, m.WellFormed

structure SocketEvent.WellFormed (e : SocketEvent) : Prop where
  request : ∀ schema ∈ e.request, schema.WellFormed
  response : ∀ schema ∈ e.response, schema.WellFormed

structure Socket.WellFormed (s : Socket) : Prop where
  description : ∀ text ∈ s.description, IsDocText text
  auth : ∀ schema ∈ s.auth, schema.WellFormed
  connectHeaders : ∀ schema ∈ s.connectHeaders, schema.WellFormed
  events : ∀ e ∈ s.events, e.WellFormed

def StreamEvent.WellFormed (e : StreamEvent) : Prop := ∀ f ∈ e.fields, f.WellFormed

structure EventStream.WellFormed (s : EventStream) : Prop where
  description : ∀ text ∈ s.description, IsDocText text
  request : ∀ schema ∈ s.request, schema.WellFormed
  events : ∀ e ∈ s.events, e.WellFormed

structure Services.WellFormed (e : Services) : Prop where
  apis : ∀ a ∈ e.apis, a.WellFormed
  sockets : ∀ s ∈ e.sockets, s.WellFormed
  eventSockets : ∀ s ∈ e.eventSockets, s.WellFormed
  streams : ∀ s ∈ e.streams, s.WellFormed

inductive Category.WellFormed : Category → Prop
  | intro {c : Category} (services : c.services.WellFormed)
      (children : ∀ child ∈ c.children, WellFormed child) : WellFormed c

structure IsBaseUrl (url : String) : Prop where
  held : url ≠ ""
  trimmed : trimText url = url
  single : ',' ∉ url.toList

def Config.WellFormed (c : Config) : Prop := ∀ url ∈ c.baseUrls, IsBaseUrl url

structure Document.WellFormed (d : Document) : Prop where
  config : ∀ c ∈ d.config, c.WellFormed
  imports : ∀ reference ∈ d.imports, IsBare reference
  services : d.services.WellFormed
  categories : ∀ c ∈ d.categories, c.WellFormed

end Documents

theorem forall_mem_concat {A : Type} {P : A → Prop} {xs : List A} {x : A} (each : ∀ y ∈ xs, P y)
    (last : P x) : ∀ y ∈ xs ++ [x], P y :=
  List.forall_mem_append.2 ⟨each, List.forall_mem_singleton.2 last⟩

section Fields

variable {f g : Field}

-- Annotations may change, and so may whether the field is optional if it has no block.
theorem Field.WellFormed.update (wellFormed : f.WellFormed) (name : g.name = f.name)
    (type : g.type = f.type) (nested : g.nested = f.nested)
    (optional : f.nested.isSome → g.optional = f.optional)
    (comment : ∀ s ∈ g.comment, isOneLine s) : g.WellFormed := by
  obtain ⟨named, isObject, blockOptional, -, fields⟩ := wellFormed
  refine .intro (name ▸ named) (by rw [nested, type]; exact isObject) ?_ comment (nested ▸ fields)
  intro block found
  rw [nested] at found
  rw [optional (by simp [Option.mem_def.1 found]), blockOptional block found]

theorem Field.WellFormed.comment (wellFormed : f.WellFormed) : ∀ s ∈ f.comment, isOneLine s := by
  cases wellFormed
  assumption

theorem Field.wellFormed_plain {name : String} {type : FieldType} (named : name ≠ "")
    (plain : type ≠ .object) : Field.WellFormed { name, type } :=
  .intro named (by simpa using plain) nofun nofun nofun

theorem Field.wellFormed_object {name : String} {block : Schema} (named : name ≠ "")
    (wellFormed : block.WellFormed) : (SchemaReader.objectField name block).WellFormed := by
  refine .intro named (by simp [SchemaReader.objectField]) ?_ nofun ?_
  · rintro _ ⟨⟩
    rfl
  · rintro _ ⟨⟩
    exact wellFormed

end Fields

section Values

theorem comma_not_mem_splitOn (cs : List Char) : ∀ part ∈ cs.splitOn ',', ',' ∉ part := by
  induction cs with
  | nil => simp
  | cons c rest ih =>
    rw [List.splitOn_cons_eq_if_modifyHead]
    split
    · exact List.forall_mem_cons.2 ⟨by simp, ih⟩
    next other =>
      obtain ⟨first, more, split⟩ := List.exists_cons_of_ne_nil (List.splitOn_ne_nil ',' rest)
      rw [split] at ih ⊢
      obtain ⟨free, others⟩ := List.forall_mem_cons.1 ih
      have noComma : ',' ≠ c := by
        rintro rfl
        exact other rfl
      exact List.forall_mem_cons.2 ⟨List.not_mem_cons_of_ne_of_not_mem noComma free, others⟩

theorem splitUrls_isBaseUrl (text : String) :
    ∀ url ∈ ConfigReader.splitUrls text, IsBaseUrl url := by
  intro url found
  simp only [ConfigReader.splitUrls, List.mem_filterMap, List.mem_map] at found
  obtain ⟨_, ⟨part, isPart, rfl⟩, kept⟩ := found
  split at kept
  · cases kept
  next held =>
    obtain rfl := Option.some.inj kept
    refine ⟨by simpa using held, by simp [trimText], fun comma => ?_⟩
    rw [String.toList_ofList] at comma
    exact comma_not_mem_splitOn text.toList part isPart ((trim_isInfix part).subset comma)

theorem isBare_unquote (s : String) : IsBare (DocumentReader.unquote s) := by
  have ends := dropEnds_ends isQuote s.toList
  simpa [IsBare, DocumentReader.unquote] using ends

end Values

section Verbs

def verbLetters : List Char := ['a', 'c', 'd', 'e', 'g', 'h', 'l', 'o', 'p', 's', 't', 'u']

-- What is no code point gives the first character, which is no letter.
theorem ofNat_eq_letter {n : Nat} (letter : Char.ofNat n ∈ verbLetters) :
    (Char.ofNat n).toNat = n := by
  by_cases valid : n.isValidChar
  · have found : Char.ofNat n = Char.ofNatAux n valid := dif_pos valid
    rw [found]
    rfl
  · have first : Char.ofNat n = Char.ofNat 0 := dif_neg valid
    rw [first] at letter
    exact absurd letter (by decide)

-- The only code point that the table maps to such a letter is that of its capital form.
theorem upperChar_shiftCase {c : Char} (letter : shiftCase lowerRuns c ∈ verbLetters) :
    upperChar c = upperChar (shiftCase lowerRuns c) := by
  -- Letter by letter: to decide this for all characters at once would go through all there are.
  have table : ∀ run ∈ lowerRuns, verbLetters.all fun d => 0 < d.toNat ∧
      ((run.1 : Int) ≤ d.toNat - run.2.2.2 → (d.toNat : Int) - run.2.2.2 ≤ run.2.1 →
        upperChar (Char.ofNat ((d.toNat : Int) - run.2.2.2).toNat) = upperChar d) := by
    decide +kernel
  unfold shiftCase at letter ⊢
  split at letter
  next low high step delta found =>
    split at letter
    next hit =>
      rw [if_pos hit]
      have within := List.find?_some found
      simp only [Bool.and_eq_true, decide_eq_true_eq] at within
      have code := ofNat_eq_letter letter
      have known := List.all_eq_true.1 (table _ (List.mem_of_find?_eq_some found)) _ letter
      obtain ⟨positive, shifted⟩ := of_decide_eq_true known
      have back : ((Char.ofNat (c.toNat + delta).toNat).toNat : Int) - delta = c.toNat := by omega
      simp only [back, Int.toNat_natCast, Char.ofNat_toNat] at shifted
      exact shifted (by omega) (by omega)
    next miss => rw [if_neg miss]
  next => rfl

theorem upperChar_lowerChar {before after : List Char} {c : Char}
    (letters : ∀ d ∈ lowerChar before c after, d ∈ verbLetters) :
    upperChar c = (lowerChar before c after).flatMap upperChar := by
  unfold lowerChar at letters ⊢
  split at letters
  next => split at letters <;> exact absurd (letters _ List.mem_cons_self) (by decide)
  next noSigma =>
    split at letters
    next => exact absurd (letters 'i' List.mem_cons_self) (by decide)
    next noDot =>
      rw [if_neg noSigma, if_neg noDot, List.flatMap_singleton]
      exact upperChar_shiftCase (letters _ List.mem_cons_self)

theorem upper_lowerFrom {cs before : List Char}
    (letters : ∀ d ∈ lowerFrom cs before, d ∈ verbLetters) :
    cs.flatMap upperChar = (lowerFrom cs before).flatMap upperChar := by
  induction cs generalizing before with
  | nil => rfl
  | cons c rest ih =>
    obtain ⟨first, others⟩ := List.forall_mem_append.1 letters
    rw [lowerFrom, List.flatMap_append, List.flatMap_cons, upperChar_lowerChar first, ih others]

-- What reads as a verb in small letters is a verb in capital letters, whatever characters it is
-- made of.
theorem upper_mem_verbs {literal : String} (isVerb : ApiReader.verbs.contains (lower literal)) :
    upper literal ∈ Method.verbs := by
  -- No letter of a verb is the small form of anything but its capital letter.
  have known : ∀ verb ∈ ApiReader.verbs,
      verb.toList.all (· ∈ verbLetters) ∧ upper verb ∈ Method.verbs := by decide +kernel
  obtain ⟨letters, capital⟩ := known _ (by simpa using isVerb)
  have same : upper literal = upper (lower literal) := by
    simp only [lower, String.toList_ofList, List.all_eq_true, decide_eq_true_eq] at letters
    simp only [upper, lower, String.toList_ofList, upper_lowerFrom letters]
  rwa [same]

end Verbs

end ApiCatalog
