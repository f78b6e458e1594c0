import ApiCatalog.Proofs.BlockNesting

/-!
Documents that end too early. What has been read of a document grows by whole statements only, so
that a document cut off between two of them is the beginning of the whole one, and one cut off
anywhere else is refused.
-/

set_option autoImplicit false

namespace ApiCatalog

/-- The lists of a document are where those of another one start. -/
structure Document.Begins (part whole : Document) : Prop where
  imports : part.imports <+: whole.imports
  apis : part.apis <+: whole.apis
  sockets : part.sockets <+: whole.sockets
  eventSockets : part.eventSockets <+: whole.eventSockets
  streams : part.streams <+: whole.streams
  categories : part.categories <+: whole.categories

namespace Document.Begins

theorem refl (d : Document) : d.Begins d := by
  constructor <;> exact List.prefix_refl _

theorem trans {d₁ d₂ d₃ : Document} (first : d₁.Begins d₂) (second : d₂.Begins d₃) :
    d₁.Begins d₃ where
  imports := first.imports.trans second.imports
  apis := first.apis.trans second.apis
  sockets := first.sockets.trans second.sockets
  eventSockets := first.eventSockets.trans second.eventSockets
  streams := first.streams.trans second.streams
  categories := first.categories.trans second.categories

end Document.Begins

structure Document.GoesOn (part whole : Document) : Prop extends part.Begins whole where
  config : whole.config = part.config

theorem Document.GoesOn.refl (d : Document) : d.GoesOn d := ⟨.refl d, rfl⟩

theorem ConfigReader.open_of_finished {r : ConfigReader} {t : Token} {config : Config}
    (finished : r.step t = .ok (.finished config)) : r.openBlocks = [.config] := by
  obtain ⟨_, place⟩ := r
  cases place with
  | opening => cases (Token.of_require finished).2
  | _ => rfl

namespace DocumentReader

section Statements

variable (r : DocumentReader)

theorem goesOn_modifyInnermost (f : Category → Category) :
    r.document.GoesOn (r.modifyInnermost f).document := by
  unfold modifyInnermost
  split <;> exact .refl _

theorem goesOn_addImport (reference : String) :
    r.document.GoesOn (r.addImport reference).document := by
  refine ⟨⟨?_, ?_, ?_, ?_, ?_, ?_⟩, ?_⟩ <;> simp [addImport]

theorem goesOn_addApi (api : Api) : r.document.GoesOn (r.addApi api).document := by
  unfold addApi
  split
  · refine ⟨⟨?_, ?_, ?_, ?_, ?_, ?_⟩, ?_⟩ <;> simp
  · exact r.goesOn_modifyInnermost _

theorem goesOn_addSocket (kind : SocketKind) (socket : Socket) :
    r.document.GoesOn (r.addSocket kind socket).document := by
  unfold addSocket
  split
  · refine ⟨⟨?_, ?_, ?_, ?_, ?_, ?_⟩, ?_⟩ <;> simp
  · refine ⟨⟨?_, ?_, ?_, ?_, ?_, ?_⟩, ?_⟩ <;> simp
  · exact r.goesOn_modifyInnermost _
  · exact r.goesOn_modifyInnermost _

theorem goesOn_addStream (stream : EventStream) :
    r.document.GoesOn (r.addStream stream).document := by
  unfold addStream
  split
  · refine ⟨⟨?_, ?_, ?_, ?_, ?_, ?_⟩, ?_⟩ <;> simp
  · exact r.goesOn_modifyInnermost _

theorem goesOn_closeCategory : r.document.GoesOn r.closeCategory.document := by
  unfold closeCategory
  split
  · exact .refl _
  · refine ⟨⟨?_, ?_, ?_, ?_, ?_, ?_⟩, ?_⟩ <;> simp
  · exact .refl _

theorem goesOn_entry (t : Token) : r.document.GoesOn (r.entry t).document := by
  unfold entry
  split
  · exact .refl _
  · split <;> exact .refl _
  · split
    · exact .refl _
    · exact r.goesOn_closeCategory
  · exact .refl _

end Statements

theorem step_goesOn {lastLine : Nat} {r s : DocumentReader} {t : Token}
    (stepped : r.step lastLine t = .ok s) :
    r.document.GoesOn s.document ∨ r.document.Begins s.document ∧ .config ∈ r.openBlocks := by
  obtain ⟨document, enclosing, nextId, doc, place⟩ := r
  cases place with
  | entries =>
    cases stepped
    exact .inl (goesOn_entry _ t)
  | importReference =>
    cases stepped
    exact .inl (goesOn_addImport _ _)
  | categoryName =>
    cases stepped
    exact .inl (.refl _)
  | categoryOpening name =>
    obtain ⟨-, rfl⟩ := Token.of_require stepped
    exact .inl (.refl _)
  | categoryLabel | categoryDescription =>
    simp only [step] at stepped
    split at stepped <;> cases stepped
    · exact .inl (goesOn_modifyInnermost _ _)
    · exact .inl (goesOn_entry _ t)
  | categoryBasePath =>
    cases stepped
    exact .inl (goesOn_modifyInnermost _ _)
  | config reader =>
    obtain ⟨progress, read, rfl⟩ := map_eq_ok.1 stepped
    cases progress with
    | reading reader => exact .inl (.refl _)
    | finished config =>
      refine .inr ⟨by constructor <;> exact List.prefix_refl _, ?_⟩
      simp [openBlocks, Place.openBlocks, ConfigReader.open_of_finished read]
  | api reader =>
    obtain ⟨progress, -, rfl⟩ := map_eq_ok.1 stepped
    cases progress with
    | reading reader => exact .inl (.refl _)
    | finished api => exact .inl (goesOn_addApi _ api)
  | socket kind reader =>
    obtain ⟨progress, -, rfl⟩ := map_eq_ok.1 stepped
    cases progress with
    | reading reader => exact .inl (.refl _)
    | finished socket => exact .inl (goesOn_addSocket _ kind socket)
  | stream reader =>
    obtain ⟨progress, -, rfl⟩ := map_eq_ok.1 stepped
    cases progress with
    | reading reader => exact .inl (.refl _)
    | finished stream => exact .inl (goesOn_addStream _ stream)

theorem run_goesOn {xs ys : List Token} {r s : DocumentReader}
    (first : start.run 1 xs = .ok r) (read : start.run 1 (xs ++ ys) = .ok s) :
    r.document.Begins s.document ∧
      (s.document.config = r.document.config ∨ ∃ p, p <+: ys ∧ .config ∈ openAfter (xs ++ p)) := by
  -- What follows is read token by token, each going over to those that have been read. Settings
  -- that are replaced show as an open block in between.
  induction ys generalizing xs r with
  | nil =>
    rw [List.append_nil, first] at read
    cases read
    exact ⟨.refl _, .inl rfl⟩
  | cons t rest ih =>
    rw [List.append_cons] at read
    obtain ⟨next, -, upTo, -⟩ := run_append_ok read
    obtain ⟨r', lastLine, first', last⟩ := run_append_ok upTo
    obtain rfl := Except.ok.inj (first.symm.trans first')
    obtain ⟨next', stepped, ended⟩ := bind_eq_ok.1 last
    cases ended
    obtain ⟨begins, settings⟩ := ih upTo read
    have later : (∃ p, p <+: rest ∧ .config ∈ openAfter (xs ++ [t] ++ p)) →
        ∃ p, p <+: t :: rest ∧ .config ∈ openAfter (xs ++ p) := by
      rintro ⟨p, within, found⟩
      exact ⟨t :: p, by simpa using within, by simpa using found⟩
    rcases step_goesOn stepped with same | ⟨grown, settled⟩
    · refine ⟨same.toBegins.trans begins, settings.imp ?_ later⟩
      exact fun kept => kept.trans same.config
    · refine ⟨grown.trans begins, .inr ⟨[], List.nil_prefix, ?_⟩⟩
      simpa [openAfter, first] using settled

end DocumentReader

-- The last of some tokens starts an import, and its reference is still to come.
def awaitsReference (tokens : List Token) : Bool :=
  match DocumentReader.start.run 1 tokens with
  | .ok ⟨_, _, _, _, .importReference⟩ => true
  | _ => false

theorem DocumentReader.finish_cases {r : DocumentReader}
    (settled : r.place ≠ .importReference) (endLine : Nat) :
    r.finish endLine = .ok r.document ∧ r.openBlocks = [] ∨
      ∃ e, r.finish endLine = .error e ∧ e.got = .endOfText := by
  obtain ⟨document, enclosing, nextId, doc, place⟩ := r
  cases place with
  | entries =>
    cases enclosing with
    | nil => exact .inl ⟨rfl, rfl⟩
    | cons category outer => exact .inr ⟨_, rfl, rfl⟩
  | importReference => exact absurd rfl settled
  | _ => exact .inr ⟨_, rfl, rfl⟩

theorem DocumentReader.finish_goesOn {r : DocumentReader} {endLine : Nat} {d : Document}
    (finished : r.finish endLine = .ok d) : r.document.GoesOn d := by
  unfold finish at finished
  split at finished
  · cases finished
  · split at finished <;> cases finished
    · exact goesOn_addImport _ _
    · exact .refl _

/-- A document that is cut off is refused, or it is a beginning of the whole one with no block left
open, and with its settings unless others follow. -/
theorem Document.ofTokens_cut {s : TokenStream} {d : Document}
    (parsed : Document.ofTokens s = .ok d) (k : Nat)
    (complete : awaitsReference (s.tokens.take k) = false) (endLine : Nat) :
    (∃ part, Document.ofTokens ⟨s.tokens.take k, endLine⟩ = .ok part ∧ part.Begins d ∧
        openAfter (s.tokens.take k) = [] ∧
        (part.config = d.config ∨ ∃ j > k, .config ∈ openAfter (s.tokens.take j))) ∨
      ∃ e, Document.ofTokens ⟨s.tokens.take k, endLine⟩ = .error e ∧ e.got = .endOfText := by
  obtain ⟨whole, read, finished⟩ := bind_eq_ok.1 parsed
  rw [← List.take_append_drop k s.tokens] at read
  obtain ⟨r, -, first, -⟩ := DocumentReader.run_append_ok read
  have settled : r.place ≠ .importReference := by
    obtain ⟨document, enclosing, nextId, doc, place⟩ := r
    rintro ⟨⟩
    simp [awaitsReference, first] at complete
  have cut : Document.ofTokens ⟨s.tokens.take k, endLine⟩ = r.finish endLine := by
    simp [Document.ofTokens, first, bind, Except.bind]
  rw [cut]
  rcases r.finish_cases settled endLine with ⟨ended, closed⟩ | refused
  · have blocks : openAfter (s.tokens.take k) = [] := by simp [openAfter, first, closed]
    obtain ⟨begins, settings⟩ := DocumentReader.run_goesOn first read
    have last := DocumentReader.finish_goesOn finished
    refine .inl ⟨r.document, ended, begins.trans last.toBegins, blocks, ?_⟩
    rcases settings with same | ⟨p, within, found⟩
    · exact .inl (same.symm.trans last.config.symm)
    · have held : p ≠ [] := by
        rintro rfl
        simp [blocks] at found
      have upTo : s.tokens.take (k + p.length) = s.tokens.take k ++ p := by
        rw [List.take_add, ← List.prefix_iff_eq_take.1 within]
      have further := List.length_pos_iff.2 held
      exact .inr ⟨k + p.length, by omega, upTo ▸ found⟩
  · exact .inr refused

def resetText : String :=
  "import a.rqc config \x7b cors true \x7d api /a \x7b get \x7b \x7d \x7d config \x7b \x7d"

theorem Document.ofTokens_cut_reset :
    let s := TokenStream.ofText resetText
    awaitsReference (s.tokens.take 7) = false ∧
      ∃ d part, Document.ofTokens s = .ok d ∧ Document.ofTokens ⟨s.tokens.take 7, 1⟩ = .ok part ∧
        part.Begins d := by
  intro s
  -- The cut is after the first settings, which other ones replace later on.
  have complete : awaitsReference (s.tokens.take 7) = false := by decide +kernel
  obtain ⟨d, parsed⟩ := exists_of_isOk (show (Document.ofTokens s).isOk by decide +kernel)
  refine ⟨complete, ?_⟩
  rcases Document.ofTokens_cut parsed 7 complete 1 with ⟨part, read, begins, -⟩ | ⟨e, failed, -⟩
  · exact ⟨d, part, parsed, read, begins⟩
  · obtain ⟨part, read⟩ := exists_of_isOk
      (show (Document.ofTokens ⟨s.tokens.take 7, 1⟩).isOk by decide +kernel)
    cases read.symm.trans failed

end ApiCatalog
