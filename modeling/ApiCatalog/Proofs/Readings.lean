import ApiCatalog.Proofs.Printer

/-!
What pieces do to a reader, for as long as what comes next does not change their meaning: a question
mark after a block, say, would still belong to it.
-/

set_option autoImplicit false

namespace ApiCatalog

-- A place between two pieces: the line of the token before it, and its own.
structure Spot where
  last : Nat
  line : Nat

def Spot.after (spot : Spot) : List Piece → Spot
  | [] => spot
  | p :: rest => Spot.after ⟨spot.line, spot.line + p.height⟩ rest

@[simp]
theorem Spot.after_nil (spot : Spot) : spot.after [] = spot := rfl

theorem Spot.after_append (spot : Spot) (ps qs : List Piece) :
    spot.after (ps ++ qs) = (spot.after ps).after qs := by
  induction ps generalizing spot with
  | nil => rfl
  | cons p rest ih => exact ih _

namespace DocumentReader

def read (r : DocumentReader) (spot : Spot) (pieces : List Piece) :
    Except UnexpectedToken DocumentReader :=
  r.run spot.last (tokensFrom spot.line pieces)

theorem read_cons (r : DocumentReader) (spot : Spot) (p : Piece) (rest : List Piece) :
    r.read spot (p :: rest) =
      r.step spot.last (p.token spot.line) >>= fun s => s.read (spot.after [p]) rest := rfl

end DocumentReader

-- A piece takes a reader from one state to another, wherever it stands.
def Steps (r : DocumentReader) (p : Piece) (s : DocumentReader) : Prop :=
  ∀ last line, r.step last (p.token line) = .ok s

-- It makes no difference to a piece which of two states a reader is in.
def StepsAlike (r s : DocumentReader) (p : Piece) : Prop :=
  ∀ last line, r.step last (p.token line) = s.step last (p.token line)

/-- Some pieces take a reader from one state to another, if what follows them is as required. -/
structure Reads (next : List Piece → Prop) (r : DocumentReader) (pieces : List Piece)
    (s : DocumentReader) : Prop where
  scannable : ∀ p ∈ pieces, p.Scannable
  read : ∀ spot rest, next rest →
    r.read spot (pieces ++ rest) = s.read (spot.after pieces) rest

def Next (first : Piece → Prop) : List Piece → Prop
  | [] => False
  | p :: _ => first p

def Anything : List Piece → Prop := fun _ => True

theorem next_flatMap {A : Type} {pieces : A → List Piece} {next : List Piece → Prop}
    (follows : ∀ a rest, next rest → next (pieces a ++ rest)) (items : List A) :
    ∀ rest, next rest → next (items.flatMap pieces ++ rest) := by
  intro rest isNext
  induction items with
  | nil => exact isNext
  | cons item others ih =>
    rw [List.flatMap_cons, List.append_assoc]
    exact follows item _ ih

namespace Reads

variable {next later : List Piece → Prop} {r s t : DocumentReader} {ps qs : List Piece} {p : Piece}

theorem nothing (r : DocumentReader) : Reads next r [] r := ⟨nofun, fun _ _ _ => rfl⟩

theorem weaken (first : Reads next r ps s) (implies : ∀ rest, later rest → next rest) :
    Reads later r ps s :=
  ⟨first.scannable, fun spot rest follows => first.read spot rest (implies rest follows)⟩

theorem anyway (first : Reads Anything r ps s) : Reads later r ps s :=
  first.weaken fun _ _ => trivial

theorem append (first : Reads next r ps s) (second : Reads later s qs t)
    (follows : ∀ rest, later rest → next (qs ++ rest)) : Reads later r (ps ++ qs) t where
  scannable := List.forall_mem_append.2 ⟨first.scannable, second.scannable⟩
  read spot rest isLater := by
    rw [List.append_assoc, first.read _ _ (follows rest isLater), second.read _ _ isLater,
      Spot.after_append]

-- After pieces that mean the same whatever comes next.
theorem andThen (first : Reads Anything r ps s) (second : Reads later s qs t) :
    Reads later r (ps ++ qs) t :=
  first.append second fun _ _ => trivial

theorem step (scannable : p.Scannable) (steps : Steps r p s) : Reads Anything r [p] s where
  scannable := by simpa using scannable
  read spot rest _ := by
    rw [List.singleton_append, DocumentReader.read_cons, steps]
    rfl

theorem cons (scannable : p.Scannable) (steps : Steps r p s) (others : Reads later s ps t) :
    Reads later r (p :: ps) t :=
  (step scannable steps).andThen others

-- A state that the next piece leaves as it would leave another one.
theorem settle {first : Piece → Prop} (alike : ∀ p, first p → StepsAlike r s p) :
    Reads (Next first) r [] s where
  scannable := nofun
  read
    | spot, p :: rest, isFirst => by
      rw [List.nil_append, DocumentReader.read_cons, DocumentReader.read_cons,
        alike p isFirst]
      rfl

theorem option {A : Type} {pieces : A → List Piece} (state : Option A → DocumentReader)
    (value : Option A)
    (present : ∀ a ∈ value, Reads next (state none) (pieces a) (state (some a))) :
    Reads next (state none) (value.elim [] pieces) (state value) :=
  match value, present with
  | none, _ => nothing _
  | some a, present => present a rfl

theorem flatMap {A : Type} {pieces : A → List Piece} (state : List A → DocumentReader)
    {items : List A} (follows : ∀ a rest, next rest → next (pieces a ++ rest))
    (each : ∀ before, ∀ a ∈ items, Reads next (state before) (pieces a) (state (before ++ [a]))) :
    Reads next (state []) (items.flatMap pieces) (state items) := by
  -- The later items are read after the first one, so what comes before has to vary.
  suffices general : ∀ before, Reads next (state before) (items.flatMap pieces)
      (state (before ++ items)) by simpa using general []
  induction items with
  | nil =>
    intro before
    simpa using nothing _
  | cons item others ih =>
    intro before
    have head := each before item (by simp)
    have tail := ih (fun before a found => each before a (by simp [found])) (before ++ [item])
    rw [List.append_assoc, List.singleton_append] at tail
    exact head.append tail (next_flatMap follows others)

theorem braced {u : DocumentReader} (opened : Steps r (.mark .openBrace) s)
    (inside : Reads next s ps t) (closed : Steps t (.mark .closeBrace) u)
    (ends : ∀ rest, next (.mark .closeBrace :: rest)) : Reads Anything r (braced ps) u :=
  .cons (Piece.scannable_mark _) opened
    (inside.append (.step (Piece.scannable_mark _) closed) fun rest _ => ends rest)

theorem parenthesized {u : DocumentReader} (scannable : p.Scannable)
    (opened : Steps r (.mark .openParen) s) (inside : Steps s p t)
    (closed : Steps t (.mark .closeParen) u) : Reads Anything r (parenthesized p) u :=
  .cons (Piece.scannable_mark _) opened (.cons scannable inside
    (.step (Piece.scannable_mark _) closed))

end Reads

end ApiCatalog
